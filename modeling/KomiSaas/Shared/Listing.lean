import KomiSaas.Lib.Like
import KomiSaas.Lib.Paging
import KomiSaas.Shared.Text

/-!
# What the listings share

* `Pagination` and `Paginated`: `interfaces/api-response.interface.ts`, with the
  limits of `shared/validation.constants.ts` that every search DTO puts on a page.
* `likeLower`: `LIKE` and `ILIKE`, which work on `characters`.
* `escapeLike`, which the repositories of products and branches each have.

What the searches rest on: between two `%` an escaped text matches the texts that
contain it, up to `LOWER` (`likeLower_escaped`). One that is not escaped does so
where it has none of the three characters (`likeLower_of_plain`), and nowhere else
(`exists_likeLower_of_not_plain`). On its own an escaped text matches the texts that
are the same up to `LOWER` (`likeLower_escapeLike`); one that is not escaped need not
even match itself (`likeLower_self_iff`).
-/

namespace KomiSaas.Shared

open KomiSaas.Lib

/-! ## Pages -/

/-- `VALIDATION_DEFAULTS.PAGINATION.MAX_PAGE_SIZE`. -/
def maxPageSize : ℕ := 100

/-- A page that a search DTO lets through. -/
structure Pagination where
  pageNumber : ℕ
  pageSize : ℕ
  pageNumber_pos : 1 ≤ pageNumber
  pageSize_pos : 1 ≤ pageSize
  pageSize_le : pageSize ≤ maxPageSize

/-- `Paginated`. -/
structure Paginated (α : Type) where
  rows : List α
  pageNumber : ℕ
  pageSize : ℕ
  total : ℕ
  deriving DecidableEq

/-- `getManyAndCount` of the ordered rows: one page of them, and how many there are. -/
def Pagination.of {ρ κ : Type} [LinearOrder κ] (pagination : Pagination) (key : ρ → κ)
    (rows : List ρ) : Paginated ρ where
  rows := Paging.page pagination.pageSize pagination.pageNumber (Paging.orderBy key rows)
  pageNumber := pagination.pageNumber
  pageSize := pagination.pageSize
  total := rows.length

/-- Another page of the same size. -/
def Pagination.at (pagination : Pagination) (i : ℕ) : Pagination :=
  { pagination with pageNumber := i + 1, pageNumber_pos := Nat.le_add_left 1 i }

/-! ## Texts of the database -/

/-- `%`, `_` and the default escape of `LIKE`. -/
def sqlSpecials : Like.Specials ℕ where
  many := 37
  one := 95
  escape := 92
  one_ne_many := by decide
  escape_ne_many := by decide
  escape_ne_one := by decide

/-- `escapeLike(text)`: `text.replace(/[\\%_]/g, …)`. -/
def escapeLike (text : JsString) : JsString :=
  text.flatMap fun character =>
    if character ∈ js "\\%_" then js "\\" ++ [character] else [character]

/-- `'%' + text + '%'`. -/
def between (text : JsString) : JsString := js "%" ++ text ++ js "%"

/-- `LOWER(text) LIKE LOWER(pattern)`. -/
def likeLower (lower : JsString → JsString) (text pattern : JsString) : Bool :=
  Like.like sqlSpecials (characters (lower text)) (characters (lower pattern))

/-- A `LOWER` that changes every character on its own, and none into or out of the
    three with a meaning in a pattern. -/
structure ByCharacter (lower : JsString → JsString) (f : ℕ → ℕ) : Prop where
  map : ∀ s, characters (lower s) = (characters s).map f
  many : ∀ c, f c = sqlSpecials.many ↔ c = sqlSpecials.many
  one : ∀ c, f c = sqlSpecials.one ↔ c = sqlSpecials.one
  escape : ∀ c, f c = sqlSpecials.escape ↔ c = sqlSpecials.escape

variable {c d : UInt16} {s text pattern : JsString} {lower : JsString → JsString} {f : ℕ → ℕ}

/-! ## Characters -/

theorem characters_pair (hc : isHighSurrogate c = true) (hd : isLowSurrogate d = true) :
    characters (c :: d :: s) =
      (0x10000 + (c.toNat - 0xD800) * 0x400 + (d.toNat - 0xDC00)) :: characters s := by
  rw [characters, if_pos (by rw [hc, hd]; rfl)]

/-- A code unit that starts no pair is a character. -/
theorem characters_cons (h : isHighSurrogate c = false ∨ ∀ d ∈ s.head?, isLowSurrogate d = false) :
    characters (c :: s) = c.toNat :: characters s := by
  cases s with
  | nil => rfl
  | cons d s =>
    have hnot : (isHighSurrogate c && isLowSurrogate d) = false := by
      rw [Bool.and_eq_false_iff]
      exact h.imp id fun h => h d rfl
    rw [characters, hnot]
    rfl

theorem characters_cons_cons (h : ¬ (isHighSurrogate c && isLowSurrogate d) = true) :
    characters (c :: d :: s) = c.toNat :: characters (d :: s) := by
  rw [characters, if_neg h]

theorem bounds_of_isHighSurrogate (h : isHighSurrogate c = true) :
    0xD800 ≤ c.toNat ∧ c.toNat ≤ 0xDBFF := by
  obtain ⟨hlow, hhigh⟩ := Bool.and_eq_true_iff.mp h
  exact ⟨UInt16.le_iff_toNat_le.mp (of_decide_eq_true hlow),
    UInt16.le_iff_toNat_le.mp (of_decide_eq_true hhigh)⟩

theorem bounds_of_isLowSurrogate (h : isLowSurrogate c = true) :
    0xDC00 ≤ c.toNat ∧ c.toNat ≤ 0xDFFF := by
  obtain ⟨hlow, hhigh⟩ := Bool.and_eq_true_iff.mp h
  exact ⟨UInt16.le_iff_toNat_le.mp (of_decide_eq_true hlow),
    UInt16.le_iff_toNat_le.mp (of_decide_eq_true hhigh)⟩

/-- The three characters with a meaning, as code units. -/
theorem mem_specials_iff : c ∈ js "\\%_" ↔ sqlSpecials.has c.toNat := by
  have hcodes : js "\\%_" = [92, 37, 95] := rfl
  rw [hcodes, Like.Specials.has]
  simp only [List.mem_cons, List.not_mem_nil, or_false, sqlSpecials, ← UInt16.toNat_inj]
  change c.toNat = 92 ∨ c.toNat = 37 ∨ c.toNat = 95 ↔ _
  omega

theorem not_surrogate_of_has (h : sqlSpecials.has c.toNat) :
    isHighSurrogate c = false ∧ isLowSurrogate c = false := by
  have hsmall : c.toNat < 0xD800 := by
    rcases h with h | h | h
    all_goals
      rw [h]
      decide
  constructor
  · by_contra hhigh
    have hbounds := bounds_of_isHighSurrogate (Bool.eq_true_of_not_eq_false hhigh)
    omega
  · by_contra hlow
    have hbounds := bounds_of_isLowSurrogate (Bool.eq_true_of_not_eq_false hlow)
    omega

theorem not_has_of_surrogate (h : isHighSurrogate c = true ∨ isLowSurrogate c = true) :
    ¬ sqlSpecials.has c.toNat := by
  intro hhas
  obtain ⟨hhigh, hlow⟩ := not_surrogate_of_has hhas
  rcases h with h | h
  · cases hhigh.symm.trans h
  · cases hlow.symm.trans h

theorem escapeLike_cons :
    escapeLike (c :: s) =
      if sqlSpecials.has c.toNat then 92 :: c :: escapeLike s else c :: escapeLike s := by
  rw [escapeLike, List.flatMap_cons, ← escapeLike]
  by_cases h : sqlSpecials.has c.toNat
  · rw [if_pos h, if_pos (mem_specials_iff.mpr h)]
    rfl
  · rw [if_neg h, if_neg (mem_specials_iff.not.mpr h)]
    rfl

/-- An escaped text starts with the escape, or as the text does. -/
theorem head_escapeLike (h : d ∈ (escapeLike s).head?) : d = 92 ∨ d ∈ s.head? := by
  cases s with
  | nil => cases h
  | cons c s =>
    rw [escapeLike_cons] at h
    split_ifs at h
    · exact .inl (Option.some.inj h).symm
    · exact .inr h

/-- Escaping is the same on code units and on characters. -/
theorem characters_escapeLike :
    characters (escapeLike text) = Like.escape sqlSpecials (characters text) := by
  have hescape : ∀ {n : ℕ} {ns : List ℕ}, Like.escape sqlSpecials (n :: ns) =
      if sqlSpecials.has n then 92 :: n :: Like.escape sqlSpecials ns
      else n :: Like.escape sqlSpecials ns := by
    intro n ns
    rw [Like.escape, List.flatMap_cons, ← Like.escape]
    split_ifs <;> rfl
  have hcons : ∀ {c : UInt16} {s : JsString}, sqlSpecials.has c.toNat →
      characters (92 :: c :: s) = 92 :: c.toNat :: characters s := by
    intro c s h
    rw [characters_cons (.inl rfl), characters_cons (.inl (not_surrogate_of_has h).1)]
    rfl
  induction text using characters.induct with
  | case1 => rfl
  | case2 c =>
    rw [escapeLike_cons, characters, hescape]
    by_cases h : sqlSpecials.has c.toNat
    · rw [if_pos h, if_pos h]
      exact hcons h
    · rw [if_neg h, if_neg h]
      rfl
  | case3 c d s hpair ih =>
    obtain ⟨hc, hd⟩ := Bool.and_eq_true_iff.mp hpair
    rw [escapeLike_cons, if_neg (not_has_of_surrogate (.inl hc)), escapeLike_cons,
      if_neg (not_has_of_surrogate (.inr hd)), characters_pair hc hd, characters_pair hc hd,
      hescape, if_neg, ih]
    -- a pair stands for a character from 0x10000 on
    rintro (h | h | h)
    all_goals
      simp only [sqlSpecials] at h
      omega
  | case4 c d s hpair ih =>
    have hstart : isHighSurrogate c = false ∨ isLowSurrogate d = false :=
      Bool.and_eq_false_iff.mp (Bool.eq_false_of_not_eq_true hpair)
    rw [escapeLike_cons, characters_cons_cons hpair, hescape]
    by_cases h : sqlSpecials.has c.toNat
    · rw [if_pos h, if_pos h, hcons h, ih]
    · rw [if_neg h, if_neg h, characters_cons, ih]
      refine hstart.imp id fun hd e he => ?_
      rcases head_escapeLike he with rfl | he
      · rfl
      · rwa [← Option.some.inj he]

theorem characters_append_of_notLow (hc : isLowSurrogate c = false) :
    characters (s ++ [c]) = characters s ++ [c.toNat] := by
  induction s using characters.induct with
  | case1 => rfl
  | case2 d =>
    rw [List.cons_append, List.nil_append, characters_cons]
    · rfl
    · exact .inr fun e he => Option.some.inj he ▸ hc
  | case3 d e s hpair ih =>
    obtain ⟨hd, he⟩ := Bool.and_eq_true_iff.mp hpair
    rw [List.cons_append, List.cons_append, characters_pair hd he, characters_pair hd he, ih]
    rfl
  | case4 d e s hpair ih =>
    rw [List.cons_append, List.cons_append, characters_cons_cons hpair, ← List.cons_append, ih,
      characters_cons_cons hpair]
    rfl

theorem characters_between :
    characters (between text) = Like.containing sqlSpecials (characters text) := by
  rw [between, List.append_assoc]
  have hcons : characters (js "%" ++ (text ++ js "%")) = 37 :: characters (text ++ js "%") :=
    characters_cons (.inl rfl)
  have happend : characters (text ++ js "%") = characters text ++ [37] :=
    characters_append_of_notLow rfl
  rw [hcons, happend]
  rfl

/-- The string of a text of characters. -/
def codeUnits (chars : List ℕ) : JsString :=
  chars.flatMap fun n =>
    if n < 0x10000 then [UInt16.ofNat n]
    else [UInt16.ofNat (0xD800 + (n - 0x10000) / 0x400),
      UInt16.ofNat (0xDC00 + (n - 0x10000) % 0x400)]

theorem codeUnits_characters : codeUnits (characters s) = s := by
  have hunit : ∀ {c : UInt16} {chars : List ℕ},
      codeUnits (c.toNat :: chars) = c :: codeUnits chars := by
    intro c chars
    have hlt : c.toNat < 0x10000 := c.toNat_lt
    rw [codeUnits, List.flatMap_cons, if_pos hlt, UInt16.ofNat_toNat]
    rfl
  induction s using characters.induct with
  | case1 => rfl
  | case2 c => exact hunit
  | case3 c d s hpair ih =>
    obtain ⟨hc, hd⟩ := Bool.and_eq_true_iff.mp hpair
    obtain ⟨hc₁, hc₂⟩ := bounds_of_isHighSurrogate hc
    obtain ⟨hd₁, hd₂⟩ := bounds_of_isLowSurrogate hd
    rw [characters_pair hc hd, codeUnits, List.flatMap_cons, ← codeUnits, ih,
      if_neg (by omega),
      show 0xD800 + (0x10000 + (c.toNat - 0xD800) * 0x400 + (d.toNat - 0xDC00) - 0x10000) / 0x400 =
        c.toNat by omega,
      show 0xDC00 + (0x10000 + (c.toNat - 0xD800) * 0x400 + (d.toNat - 0xDC00) - 0x10000) % 0x400 =
        d.toNat by omega,
      UInt16.ofNat_toNat, UInt16.ofNat_toNat]
    rfl
  | case4 c d s hpair ih =>
    rw [characters_cons_cons hpair, hunit, ih]

/-- Different strings are different texts. -/
theorem characters_injective : Function.Injective characters :=
  Function.LeftInverse.injective fun _ => codeUnits_characters

/-- A code unit below the surrogates is a character on its own wherever it is. -/
theorem mem_characters_iff (hc : c.toNat < 0xD800) : c.toNat ∈ characters s ↔ c ∈ s := by
  induction s using characters.induct with
  | case1 => simp [characters]
  | case2 e => rw [characters, List.mem_singleton, List.mem_singleton, UInt16.toNat_inj]
  | case3 d e s hpair ih =>
    obtain ⟨hd, he⟩ := Bool.and_eq_true_iff.mp hpair
    obtain ⟨hd₁, -⟩ := bounds_of_isHighSurrogate hd
    obtain ⟨he₁, -⟩ := bounds_of_isLowSurrogate he
    have hne : ∀ {e : UInt16}, 0xD800 ≤ e.toNat → c ≠ e := by
      rintro e hle rfl
      omega
    rw [characters_pair hd he, List.mem_cons, List.mem_cons, List.mem_cons, ← ih]
    constructor
    · rintro (hpair | hmem)
      · omega
      · exact .inr (.inr hmem)
    · rintro (heq | heq | hmem)
      · exact absurd heq (hne hd₁)
      · exact absurd heq (hne (by omega))
      · exact .inr hmem
  | case4 d e s hpair ih =>
    rw [characters_cons_cons hpair, List.mem_cons, List.mem_cons, UInt16.toNat_inj]
    exact or_congr_right ih

/-- A character that is no half of a pair. -/
def IsScalar (n : ℕ) : Prop := (n < 0xD800 ∨ 0xDFFF < n) ∧ n < 0x110000

/-- A string without a half of a pair on its own, as the driver sends them. -/
def WellFormed (s : JsString) : Prop := ∀ n ∈ characters s, IsScalar n

instance {n : ℕ} : Decidable (IsScalar n) := inferInstanceAs (Decidable (_ ∧ _))

instance {s : JsString} : Decidable (WellFormed s) :=
  inferInstanceAs (Decidable (∀ n ∈ characters s, IsScalar n))

/-- A text of such characters is that of its string. -/
theorem characters_codeUnits {chars : List ℕ} (h : ∀ n ∈ chars, IsScalar n) :
    characters (codeUnits chars) = chars := by
  induction chars with
  | nil => rfl
  | cons n chars ih =>
    obtain ⟨hscalar, hmax⟩ := h n List.mem_cons_self
    have ih := ih fun m hm => h m (List.mem_cons_of_mem n hm)
    rw [codeUnits, List.flatMap_cons, ← codeUnits]
    by_cases hsmall : n < 0x10000
    · have hnat : (UInt16.ofNat n).toNat = n := UInt16.toNat_ofNat_of_lt hsmall
      rw [if_pos hsmall, List.singleton_append, characters_cons, ih, hnat]
      left
      by_contra hhigh
      have hbounds := bounds_of_isHighSurrogate (Bool.eq_true_of_not_eq_false hhigh)
      rw [hnat] at hbounds
      omega
    · have hhigh : (UInt16.ofNat (0xD800 + (n - 0x10000) / 0x400)).toNat =
          0xD800 + (n - 0x10000) / 0x400 := UInt16.toNat_ofNat_of_lt (by
            change _ < 65536
            omega)
      have hlow : (UInt16.ofNat (0xDC00 + (n - 0x10000) % 0x400)).toNat =
          0xDC00 + (n - 0x10000) % 0x400 := UInt16.toNat_ofNat_of_lt (by
            change _ < 65536
            omega)
      have hvalue : 0x10000 + (0xD800 + (n - 0x10000) / 0x400 - 0xD800) * 0x400 +
          (0xDC00 + (n - 0x10000) % 0x400 - 0xDC00) = n := by omega
      rw [if_neg hsmall, List.cons_append, List.singleton_append, characters_pair, ih, hhigh, hlow,
        hvalue]
      · rw [isHighSurrogate, Bool.and_eq_true, decide_eq_true_eq, decide_eq_true_eq,
          UInt16.le_iff_toNat_le, UInt16.le_iff_toNat_le, hhigh]
        constructor
        · exact Nat.le_add_right _ _
        · change _ ≤ 0xDBFF
          omega
      · rw [isLowSurrogate, Bool.and_eq_true, decide_eq_true_eq, decide_eq_true_eq,
          UInt16.le_iff_toNat_le, UInt16.le_iff_toNat_le, hlow]
        constructor
        · exact Nat.le_add_right _ _
        · change _ ≤ 0xDFFF
          omega

/-- Characters that come from others through `f`, or are one that it keeps. -/
theorem exists_map_eq {chars origin : List ℕ} {kept : ℕ} (hf : ∀ c, f c = kept ↔ c = kept)
    (h : ∀ c ∈ chars, c ∈ origin.map f ∨ c = kept) :
    ∃ preimage : List ℕ, preimage.map f = chars ∧ ∀ c ∈ preimage, c ∈ origin ∨ c = kept := by
  induction chars with
  | nil => exact ⟨[], rfl, fun _ h => absurd h List.not_mem_nil⟩
  | cons c chars ih =>
    obtain ⟨preimage, hmap, hmem⟩ := ih fun d hd => h d (List.mem_cons_of_mem c hd)
    have hfirst : ∃ d, f d = c ∧ (d ∈ origin ∨ d = kept) := by
      rcases h c List.mem_cons_self with hc | rfl
      · obtain ⟨d, hd, rfl⟩ := List.mem_map.mp hc
        exact ⟨d, rfl, .inl hd⟩
      · exact ⟨c, (hf c).mpr rfl, .inr rfl⟩
    obtain ⟨d, rfl, hd⟩ := hfirst
    refine ⟨d :: preimage, by rw [List.map_cons, hmap], fun e he => ?_⟩
    rcases List.mem_cons.mp he with rfl | he
    · exact hd
    · exact hmem e he

/-! ## Patterns up to case -/

theorem ByCharacter.has_iff (h : ByCharacter lower f) (n : ℕ) :
    sqlSpecials.has (f n) ↔ sqlSpecials.has n := by
  rw [Like.Specials.has, h.many, h.one, h.escape]
  rfl

theorem ByCharacter.escapeLike (h : ByCharacter lower f) :
    characters (lower (Shared.escapeLike text)) =
      Like.escape sqlSpecials (characters (lower text)) := by
  rw [h.map, characters_escapeLike, h.map,
    Like.escape_map ((h.escape _).mpr rfl) h.has_iff]

theorem ByCharacter.between (h : ByCharacter lower f) :
    characters (lower (Shared.between text)) =
      Like.containing sqlSpecials (characters (lower text)) := by
  rw [h.map, characters_between, h.map, Like.containing, List.map_cons,
    List.map_append, List.map_singleton, (h.many _).mpr rfl]
  rfl

/-- An escaped text between two `%` matches the texts that contain it, up to case. -/
theorem likeLower_escaped (h : ByCharacter lower f) :
    likeLower lower text (between (escapeLike pattern)) = true ↔
      characters (lower pattern) <:+: characters (lower text) := by
  rw [likeLower, h.between, h.escapeLike]
  exact Like.like_containing_escape

/-- An escaped text alone matches the texts that are the same up to case. -/
theorem likeLower_escapeLike (h : ByCharacter lower f) :
    likeLower lower text (escapeLike pattern) = true ↔ lower text = lower pattern := by
  rw [likeLower, h.escapeLike, Like.like_escape]
  exact characters_injective.eq_iff

theorem ByCharacter.plain_iff (h : ByCharacter lower f) {chars : List ℕ} :
    Like.Plain sqlSpecials (chars.map f) ↔ Like.Plain sqlSpecials chars := by
  rw [Like.Plain, List.forall_mem_map]
  simp only [h.has_iff]
  rfl

/-- A plain text, not escaped, stands for the texts that contain it, up to case. -/
theorem likeLower_of_plain (h : ByCharacter lower f)
    (hplain : Like.Plain sqlSpecials (characters text)) :
    likeLower lower s (between text) = true ↔
      characters (lower text) <:+: characters (lower s) := by
  rw [likeLower, h.between, h.map text]
  exact Like.like_containing_of_plain (h.plain_iff.mpr hplain)

/-- Any other text also stands for one that does not contain it. -/
theorem exists_likeLower_of_not_plain (h : ByCharacter lower f) (hwell : WellFormed text)
    (hplain : ¬ Like.Plain sqlSpecials (characters text)) :
    ∃ s, WellFormed s ∧ likeLower lower s (between text) = true ∧
      ¬ characters (lower text) <:+: characters (lower s) := by
  obtain ⟨chars, hchars, hmatch, hnot⟩ := Like.exists_like_of_not_plain (mt h.plain_iff.mp hplain)
  obtain ⟨origin, rfl, horigin⟩ := exists_map_eq h.many hchars
  have hscalar : ∀ n ∈ origin, IsScalar n := by
    intro n hn
    rcases horigin n hn with hn | rfl
    · exact hwell n hn
    · exact ⟨.inl (by decide), by decide⟩
  have hcodes := characters_codeUnits hscalar
  have hlower : characters (lower (codeUnits origin)) = origin.map f := by rw [h.map, hcodes]
  refine ⟨codeUnits origin, fun n hn => hscalar n (hcodes ▸ hn), ?_, ?_⟩
  · rw [likeLower, h.between, h.map text, hlower]
    exact hmatch
  · rw [h.map text, hlower]
    exact hnot

/-- A special character of a text is one of its lower case. -/
theorem ByCharacter.mem_lower_iff (h : ByCharacter lower f) {n : ℕ} (hn : ∀ c, f c = n ↔ c = n)
    (hc : c.toNat = n) (hsmall : n < 0xD800) : n ∈ characters (lower text) ↔ c ∈ text := by
  rw [h.map, List.mem_map, ← mem_characters_iff (hc ▸ hsmall), hc]
  constructor
  · rintro ⟨m, hm, heq⟩
    rwa [(hn m).mp heq] at hm
  · intro hm
    exact ⟨n, hm, (hn n).mpr rfl⟩

/-- A text without wildcards matches itself as a pattern where it has no backslash. -/
theorem likeLower_self_iff (h : ByCharacter lower f) (hmany : 37 ∉ text) (hone : 95 ∉ text) :
    likeLower lower text text = true ↔ 92 ∉ text := by
  rw [likeLower, Like.like_self_iff ((h.mem_lower_iff h.many rfl (by decide)).not.mpr hmany)
    ((h.mem_lower_iff h.one rfl (by decide)).not.mpr hone)]
  exact (h.mem_lower_iff h.escape rfl (by decide)).not

/-! ## Plain lower case -/

/-- `toLowerCase` of a character. -/
def lowerCharacter (n : ℕ) : ℕ :=
  if 65 ≤ n ∧ n ≤ 90 then n + 32 else if n = 0x212A then 107 else n

theorem toLowerCase_cons :
    toLowerCase (c :: s) =
      (if 65 ≤ c ∧ c ≤ 90 then c + 32 else if c = 0x212A then 107 else c) :: toLowerCase s := rfl

/-- The lower case of a code unit is that of its number, and it is a surrogate where
    the code unit is. -/
theorem lower_codeUnit {e : UInt16}
    (he : e = if 65 ≤ c ∧ c ≤ 90 then c + 32 else if c = 0x212A then 107 else c) :
    e.toNat = lowerCharacter c.toNat ∧ isHighSurrogate e = isHighSurrogate c ∧
      isLowSurrogate e = isLowSurrogate c := by
  have hnat : ∀ {low : UInt16}, (low ≤ c ↔ low.toNat ≤ c.toNat) ∧ (c ≤ low ↔ c.toNat ≤ low.toNat) :=
    ⟨UInt16.le_iff_toNat_le, UInt16.le_iff_toNat_le⟩
  unfold lowerCharacter
  by_cases hcapital : 65 ≤ c ∧ c ≤ 90
  · rw [if_pos hcapital] at he
    have hcapital' : isCapital c = true := by
      rw [isCapital, Bool.and_eq_true, decide_eq_true_eq, decide_eq_true_eq]
      exact hcapital
    obtain ⟨n, hn, rfl⟩ := isCapital_iff.mp hcapital'
    rw [he]
    interval_cases n <;> exact ⟨rfl, rfl, rfl⟩
  · have hcapital' : ¬ (65 ≤ c.toNat ∧ c.toNat ≤ 90) := by
      rintro ⟨hlow, hhigh⟩
      exact hcapital ⟨hnat.1.mpr hlow, hnat.2.mpr hhigh⟩
    rw [if_neg hcapital] at he
    rw [if_neg hcapital']
    by_cases hkelvin : c = 0x212A
    · rw [he, hkelvin]
      exact ⟨rfl, rfl, rfl⟩
    · have hkelvin' : c.toNat ≠ 0x212A := fun h => hkelvin (UInt16.toNat_inj.mp h)
      rw [he, if_neg hkelvin, if_neg hkelvin']
      exact ⟨rfl, rfl, rfl⟩

theorem characters_toLowerCase :
    characters (toLowerCase s) = (characters s).map lowerCharacter := by
  induction s using characters.induct with
  | case1 => rfl
  | case2 c =>
    rw [toLowerCase_cons]
    exact congrArg (fun n => [n]) (lower_codeUnit rfl).1
  | case3 c d s hpair ih =>
    obtain ⟨hc, hd⟩ := Bool.and_eq_true_iff.mp hpair
    obtain ⟨hc₁, hc₂⟩ := bounds_of_isHighSurrogate hc
    obtain ⟨hd₁, hd₂⟩ := bounds_of_isLowSurrogate hd
    have hsame : ∀ n, 0xD800 ≤ n → lowerCharacter n = n := by
      intro n hn
      rw [lowerCharacter, if_neg (by omega), if_neg (by omega)]
    rw [toLowerCase_cons, toLowerCase_cons, characters_pair ((lower_codeUnit rfl).2.1.trans hc)
      ((lower_codeUnit rfl).2.2.trans hd), characters_pair hc hd, List.map_cons, ih,
      (lower_codeUnit rfl).1, (lower_codeUnit rfl).1, hsame _ hc₁, hsame _ (by omega), hsame]
    omega
  | case4 c d s hpair ih =>
    have hpair' : ∀ {e g : UInt16}, isHighSurrogate e = isHighSurrogate c →
        isLowSurrogate g = isLowSurrogate d → ¬ (isHighSurrogate e && isLowSurrogate g) = true := by
      intro e g he hg
      rw [he, hg]
      exact hpair
    rw [toLowerCase_cons] at ih ⊢
    rw [toLowerCase_cons, characters_cons_cons (hpair' (lower_codeUnit rfl).2.1
      (lower_codeUnit rfl).2.2), characters_cons_cons hpair, List.map_cons, ih,
      (lower_codeUnit rfl).1]

/-- The lower case of plain texts changes them character by character. -/
theorem byCharacter_toLowerCase : ByCharacter toLowerCase lowerCharacter where
  map _ := characters_toLowerCase
  many c := by
    simp only [lowerCharacter, sqlSpecials]
    split_ifs <;> omega
  one c := by
    simp only [lowerCharacter, sqlSpecials]
    split_ifs <;> omega
  escape c := by
    simp only [lowerCharacter, sqlSpecials]
    split_ifs <;> omega

end KomiSaas.Shared
