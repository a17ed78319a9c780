import Mathlib

/-!
# The patterns of `LIKE`

In a pattern of SQL one character stands for any text, one for any one character,
and an escape makes the character after it a plain one.

* `tokens`: reading a pattern. One that ends in its escape has no meaning.
* `matchesAll`: the matcher; `mem_language_iff`: it decides the language of the
  tokens, which is the product of theirs.
* `escape`: the pattern for one text; `like_escape`: it matches that text only.
* `containing`: a text between two characters for any text.
  `like_containing_escape`: with the text escaped it matches the texts that
  contain it; without, it does so where none of its characters has a meaning
  (`like_containing_of_plain`), and nowhere else (`exists_like_of_not_plain`).
* `like_self`, `like_self_iff`: which patterns match themselves.
-/

namespace KomiSaas.Lib.Like

variable {α : Type*}

/-- What a pattern is made of. -/
inductive Token (α : Type*) where
  | char (c : α)
  | one
  | many
  deriving DecidableEq

/-! ## The language of a pattern -/

/-- What a token stands for. -/
def Token.language : Token α → Language α
  | .char c => {[c]}
  | .one => {text | text.length = 1}
  | .many => ⊤

/-- What the tokens stand for, one after the other. -/
def language (ts : List (Token α)) : Language α := (ts.map Token.language).prod

theorem language_cons {t : Token α} {ts : List (Token α)} :
    language (t :: ts) = t.language * language ts := by
  rw [language, List.map_cons, List.prod_cons]
  rfl

theorem language_append {ts ts' : List (Token α)} :
    language (ts ++ ts') = language ts * language ts' := by
  rw [language, List.map_append, List.prod_append]
  rfl

/-- Characters stand for their text. -/
theorem language_chars {text : List α} : language (text.map Token.char) = {text} := by
  induction text with
  | nil => rfl
  | cons c text ih =>
    rw [List.map_cons, language_cons, ih]
    ext text'
    rw [Language.mem_mul]
    constructor
    · rintro ⟨first, hfirst, rest, hrest, rfl⟩
      obtain rfl : first = [c] := hfirst
      obtain rfl : rest = text := hrest
      rfl
    · intro h
      obtain rfl : text' = c :: text := h
      exact ⟨[c], rfl, text, rfl, rfl⟩

/-- Any text, the text, and any text. -/
theorem mem_language_containing {text text' : List α} :
    text' ∈ language (.many :: (text.map .char ++ [.many])) ↔ text <:+: text' := by
  rw [language_cons, language_append, language_chars, language_cons, Language.mem_mul]
  constructor
  · rintro ⟨first, -, _, hrest, rfl⟩
    obtain ⟨middle, hmiddle, rest, -, rfl⟩ := Language.mem_mul.mp hrest
    obtain rfl : middle = text := hmiddle
    exact ⟨first, rest, by rw [List.append_assoc]⟩
  · rintro ⟨first, rest, rfl⟩
    have hrest : rest ∈ (Token.many : Token α).language * language [] :=
      Language.mem_mul.mpr ⟨rest, trivial, [], rfl, List.append_nil rest⟩
    refine ⟨first, trivial, text ++ rest, ?_, by rw [List.append_assoc]⟩
    exact Language.mem_mul.mpr ⟨text, rfl, rest, hrest, rfl⟩

/-! ## Patterns -/

/-- The characters with a meaning in a pattern. -/
structure Specials (α : Type*) where
  many : α
  one : α
  escape : α
  one_ne_many : one ≠ many
  escape_ne_many : escape ≠ many
  escape_ne_one : escape ≠ one

/-- The character has a meaning in a pattern. -/
def Specials.has (sp : Specials α) (c : α) : Prop := c = sp.many ∨ c = sp.one ∨ c = sp.escape

/-- No character of the text has a meaning. -/
def Plain (sp : Specials α) (text : List α) : Prop := ∀ c ∈ text, ¬ sp.has c

variable [DecidableEq α] (sp : Specials α)

instance {c : α} : Decidable (sp.has c) := inferInstanceAs (Decidable (_ ∨ _ ∨ _))

instance {text : List α} : Decidable (Plain sp text) :=
  inferInstanceAs (Decidable (∀ c ∈ text, ¬ sp.has c))

/-- A character that is not escaped. -/
def token (c : α) : Token α := if c = sp.many then .many else if c = sp.one then .one else .char c

/-- A pattern, read. -/
def tokens : List α → Option (List (Token α))
  | [] => some []
  | [c] => if c = sp.escape then none else some [token sp c]
  | c :: d :: pattern =>
    if c = sp.escape then (tokens pattern).map (.char d :: ·)
    else (tokens (d :: pattern)).map (token sp c :: ·)

/-- The whole text matches. -/
def matchesAll : List (Token α) → List α → Bool
  | [], text => text.isEmpty
  | .char c :: ts, text => text.head? = some c && matchesAll ts text.tail
  | .one :: ts, text => !text.isEmpty && matchesAll ts text.tail
  | .many :: ts, text => text.tails.any (matchesAll ts)

/-- `text LIKE pattern`. -/
def like (text pattern : List α) : Bool := (tokens sp pattern).any (matchesAll · text)

/-- Every character of the text, taken as it is. -/
def escape (text : List α) : List α :=
  text.flatMap fun c => if sp.has c then [sp.escape, c] else [c]

/-- Any text, the pattern, and any text. -/
def containing (pattern : List α) : List α := sp.many :: (pattern ++ [sp.many])

variable {sp} {c : α} {text pattern rest : List α} {ts : List (Token α)}

/-! ## The matcher -/

theorem matchesAll_char :
    matchesAll (.char c :: ts) text = true ↔
      ∃ rest, text = c :: rest ∧ matchesAll ts rest = true := by
  cases text with
  | nil => simp [matchesAll]
  | cons d text => simp [matchesAll, and_assoc]

theorem matchesAll_one :
    matchesAll (.one :: ts) text = true ↔
      ∃ c rest, text = c :: rest ∧ matchesAll ts rest = true := by
  cases text with
  | nil => simp [matchesAll]
  | cons d text => simp [matchesAll]

theorem matchesAll_many :
    matchesAll (.many :: ts) text = true ↔ ∃ rest, rest <:+ text ∧ matchesAll ts rest = true := by
  rw [matchesAll, List.any_eq_true]
  simp only [List.mem_tails]

/-- The matcher decides the language. -/
theorem mem_language_iff : matchesAll ts text = true ↔ text ∈ language ts := by
  induction ts generalizing text with
  | nil => simp [matchesAll, language, Language.mem_one]
  | cons t ts ih =>
    rw [language_cons, Language.mem_mul]
    cases t with
    | char c =>
      rw [matchesAll_char]
      constructor
      · rintro ⟨rest, rfl, h⟩
        exact ⟨[c], rfl, rest, ih.mp h, rfl⟩
      · rintro ⟨first, hfirst, rest, hrest, rfl⟩
        obtain rfl : first = [c] := hfirst
        exact ⟨rest, rfl, ih.mpr hrest⟩
    | one =>
      rw [matchesAll_one]
      constructor
      · rintro ⟨c, rest, rfl, h⟩
        exact ⟨[c], List.length_singleton, rest, ih.mp h, rfl⟩
      · rintro ⟨first, hfirst, rest, hrest, rfl⟩
        obtain ⟨c, rfl⟩ := List.length_eq_one_iff.mp hfirst
        exact ⟨c, rest, rfl, ih.mpr hrest⟩
    | many =>
      rw [matchesAll_many]
      constructor
      · rintro ⟨rest, ⟨first, rfl⟩, h⟩
        exact ⟨first, trivial, rest, ih.mp h, rfl⟩
      · rintro ⟨first, -, rest, hrest, rfl⟩
        exact ⟨rest, List.suffix_append first rest, ih.mpr hrest⟩

/-! ## Reading patterns -/

theorem token_many : token sp sp.many = .many := if_pos rfl

theorem token_one : token sp sp.one = .one := by
  rw [token, if_neg sp.one_ne_many, if_pos rfl]

theorem token_plain (h : ¬ sp.has c) : token sp c = .char c := by
  rw [Specials.has, not_or, not_or] at h
  rw [token, if_neg h.1, if_neg h.2.1]

/-- A character that is not the escape is read on its own. -/
theorem tokens_cons (h : c ≠ sp.escape) :
    tokens sp (c :: pattern) = (tokens sp pattern).map (token sp c :: ·) := by
  cases pattern with
  | nil => simp [tokens, h]
  | cons d pattern => rw [tokens, if_neg h]

theorem tokens_escape_cons {d : α} :
    tokens sp (sp.escape :: d :: pattern) = (tokens sp pattern).map (.char d :: ·) := by
  rw [tokens, if_pos rfl]

/-- An escaped text is read as it is. -/
theorem tokens_escape_append :
    tokens sp (escape sp text ++ pattern) = (tokens sp pattern).map (text.map .char ++ ·) := by
  induction text with
  | nil => simp [escape]
  | cons c text ih =>
    rw [escape, List.flatMap_cons, ← escape, List.append_assoc]
    by_cases h : sp.has c
    · rw [if_pos h, List.cons_append, List.cons_append, List.nil_append, tokens_escape_cons, ih,
        Option.map_map]
      rfl
    · have hne : c ≠ sp.escape := fun he => h (.inr (.inr he))
      rw [if_neg h, List.cons_append, List.nil_append, tokens_cons hne, ih, Option.map_map,
        token_plain h]
      rfl

theorem tokens_many_cons :
    tokens sp (sp.many :: pattern) = (tokens sp pattern).map (.many :: ·) := by
  rw [tokens_cons sp.escape_ne_many.symm, token_many]

theorem tokens_last_many : tokens sp [sp.many] = some [.many] := by
  rw [tokens_many_cons]
  rfl

/-- A pattern that ends in the character for any text does not end in its escape. -/
theorem exists_tokens_append : ∃ ts, tokens sp (text ++ [sp.many]) = some ts := by
  induction text using tokens.induct sp with
  | case1 => exact ⟨_, tokens_last_many⟩
  | case2 => exact ⟨_, tokens_escape_cons⟩
  | case3 c h =>
    rw [List.cons_append, List.nil_append, tokens_cons h, tokens_last_many]
    exact ⟨_, rfl⟩
  | case4 d text ih =>
    obtain ⟨ts, hts⟩ := ih
    rw [List.cons_append, List.cons_append, tokens_escape_cons, hts]
    exact ⟨_, rfl⟩
  | case5 c d text h ih =>
    obtain ⟨ts, hts⟩ := ih
    rw [List.cons_append, tokens_cons h, hts]
    exact ⟨_, rfl⟩

/-- A plain text is its own escape. -/
theorem escape_of_plain (h : Plain sp text) : escape sp text = text := by
  rw [escape]
  conv_rhs => rw [← List.flatMap_singleton' text]
  exact List.flatMap_congr fun c hc => if_neg (h c hc)

/-! ## Escaped texts -/

/-- An escaped text matches itself and nothing else. -/
theorem like_escape : like sp text (escape sp pattern) = true ↔ text = pattern := by
  have htokens : tokens sp (escape sp pattern) = some (pattern.map .char) := by
    have h := @tokens_escape_append α _ sp pattern []
    rw [List.append_nil] at h
    rw [h]
    simp [tokens]
  rw [like, htokens, Option.any_some, mem_language_iff, language_chars]
  rfl

/-- Between two characters for any text it matches the texts that contain it. -/
theorem like_containing_escape :
    like sp text (containing sp (escape sp pattern)) = true ↔ pattern <:+: text := by
  rw [like, containing, tokens_many_cons, tokens_escape_append, tokens_last_many]
  exact mem_language_iff.trans mem_language_containing

/-- Changing every character, where those with a meaning are kept apart. -/
theorem escape_map {β : Type*} [DecidableEq β] {sp' : Specials β} {f : α → β}
    (hescape : f sp.escape = sp'.escape) (hhas : ∀ c, sp'.has (f c) ↔ sp.has c) :
    (escape sp text).map f = escape sp' (text.map f) := by
  rw [escape, escape, List.map_flatMap, List.flatMap_map]
  apply List.flatMap_congr
  intro c _
  by_cases h : sp.has c
  · rw [if_pos h, if_pos ((hhas c).mpr h)]
    simp [hescape]
  · rw [if_neg h, if_neg fun h' => h ((hhas c).mp h')]
    rfl

/-! ## Texts that are not escaped -/

/-- A shortest text for each token. -/
def Token.shortest (sp : Specials α) : Token α → List α
  | .char c => [c]
  | .one => [sp.many]
  | .many => []

theorem matchesAll_shortest : matchesAll ts (ts.flatMap (Token.shortest sp)) = true := by
  induction ts with
  | nil => rfl
  | cons t ts ih =>
    rw [List.flatMap_cons]
    cases t with
    | char c => exact matchesAll_char.mpr ⟨_, rfl, ih⟩
    | one => exact matchesAll_one.mpr ⟨_, _, rfl, ih⟩
    | many => exact matchesAll_many.mpr ⟨_, List.suffix_refl _, ih⟩

/-- A shortest text of a pattern that ends in the character for any text is no
    longer than what stands before it, and is that only where it is plain. -/
theorem shortest_spec (h : tokens sp (pattern ++ [sp.many]) = some ts) :
    (ts.flatMap (Token.shortest sp)).length ≤ pattern.length ∧
      (ts.flatMap (Token.shortest sp) = pattern → Plain sp pattern) := by
  induction pattern using tokens.induct sp generalizing ts with
  | case1 =>
    rw [List.nil_append, tokens_last_many] at h
    rw [← Option.some.inj h]
    exact ⟨le_refl _, fun _ c hc => absurd hc List.not_mem_nil⟩
  | case2 =>
    rw [List.cons_append, List.nil_append, tokens_escape_cons] at h
    obtain rfl : [.char sp.many] = ts := Option.some.inj h
    refine ⟨le_refl _, fun heq => ?_⟩
    exact absurd (List.head_eq_of_cons_eq heq).symm sp.escape_ne_many
  | case3 c hne =>
    rw [List.cons_append, List.nil_append, tokens_cons hne, tokens_last_many] at h
    obtain rfl := Option.some.inj h
    by_cases hmany : c = sp.many
    · rw [hmany, token_many]
      exact ⟨Nat.zero_le _, fun heq => by cases heq⟩
    by_cases hone : c = sp.one
    · rw [hone, token_one]
      refine ⟨le_refl _, fun heq => ?_⟩
      exact absurd (List.head_eq_of_cons_eq heq).symm sp.one_ne_many
    have hplain : ¬ sp.has c := by
      rintro (h | h | h)
      exacts [hmany h, hone h, hne h]
    rw [token_plain hplain]
    refine ⟨le_refl _, fun _ d hd => ?_⟩
    rwa [List.mem_singleton.mp hd]
  | case4 d pattern ih =>
    rw [List.cons_append, List.cons_append, tokens_escape_cons] at h
    obtain ⟨ts, hts, rfl⟩ := Option.map_eq_some_iff.mp h
    obtain ⟨hle, -⟩ := ih hts
    have hlen : ((Token.char d :: ts).flatMap (Token.shortest sp)).length ≤ pattern.length + 1 := by
      rw [List.flatMap_cons, List.length_append]
      change 1 + _ ≤ _
      omega
    refine ⟨hlen.trans (Nat.le_succ _), fun heq => ?_⟩
    rw [heq] at hlen
    simp only [List.length_cons] at hlen
    omega
  | case5 c d pattern hne ih =>
    rw [List.cons_append, tokens_cons hne] at h
    obtain ⟨ts, hts, rfl⟩ := Option.map_eq_some_iff.mp h
    obtain ⟨hle, hplain⟩ := ih hts
    rw [List.flatMap_cons]
    by_cases hmany : c = sp.many
    · rw [hmany, token_many]
      change ([] ++ _ : List α).length ≤ _ ∧ _
      rw [List.nil_append]
      refine ⟨hle.trans (Nat.le_succ _), fun heq => ?_⟩
      rw [Token.shortest, List.nil_append] at heq
      rw [heq] at hle
      simp only [List.length_cons] at hle
      omega
    by_cases hone : c = sp.one
    · rw [hone, token_one]
      refine ⟨by simpa [Token.shortest] using hle, fun heq => ?_⟩
      exact absurd (List.head_eq_of_cons_eq heq).symm sp.one_ne_many
    have hc : ¬ sp.has c := by
      rintro (h | h | h)
      exacts [hmany h, hone h, hne h]
    rw [token_plain hc]
    refine ⟨by simpa [Token.shortest] using hle, fun heq e he => ?_⟩
    rcases List.mem_cons.mp he with rfl | he
    · exact hc
    · exact hplain (List.tail_eq_of_cons_eq heq) e he

/-- The characters of a token are those of the pattern it was read from. -/
theorem mem_of_char_mem (h : tokens sp pattern = some ts) (hc : Token.char c ∈ ts) :
    c ∈ pattern := by
  have htoken : ∀ {d : α}, Token.char c = token sp d → c = d := by
    intro d h
    unfold token at h
    split_ifs at h
    exact Token.char.inj h
  induction pattern using tokens.induct sp generalizing ts with
  | case1 =>
    rw [← Option.some.inj h] at hc
    exact absurd hc List.not_mem_nil
  | case2 => simp [tokens] at h
  | case3 d hne =>
    rw [tokens, if_neg hne] at h
    rw [← Option.some.inj h, List.mem_singleton] at hc
    rw [htoken hc]
    exact List.mem_singleton_self d
  | case4 d pattern ih =>
    rw [tokens_escape_cons] at h
    obtain ⟨ts, hts, rfl⟩ := Option.map_eq_some_iff.mp h
    rcases List.mem_cons.mp hc with hc | hc
    · rw [Token.char.inj hc]
      simp
    · exact List.mem_cons_of_mem _ (List.mem_cons_of_mem _ (ih hts hc))
  | case5 e d pattern hne ih =>
    rw [tokens_cons hne] at h
    obtain ⟨ts, hts, rfl⟩ := Option.map_eq_some_iff.mp h
    rcases List.mem_cons.mp hc with hc | hc
    · rw [htoken hc]
      exact List.mem_cons_self
    · exact List.mem_cons_of_mem _ (ih hts hc)

/-- A plain text, not escaped, stands for the texts that contain it. -/
theorem like_containing_of_plain (h : Plain sp pattern) :
    like sp text (containing sp pattern) = true ↔ pattern <:+: text := by
  rw [← escape_of_plain h, like_containing_escape, escape_of_plain h]

/-- Any other text matches one that does not contain it, made of its characters and
    the one for any text. -/
theorem exists_like_of_not_plain (h : ¬ Plain sp pattern) :
    ∃ text, (∀ c ∈ text, c ∈ pattern ∨ c = sp.many) ∧
      like sp text (containing sp pattern) = true ∧ ¬ pattern <:+: text := by
  obtain ⟨ts, hts⟩ := @exists_tokens_append α _ sp pattern
  obtain ⟨hle, hplain⟩ := shortest_spec hts
  refine ⟨ts.flatMap (Token.shortest sp), fun c hc => ?_, ?_, fun hsub => ?_⟩
  · obtain ⟨t, ht, hc⟩ := List.mem_flatMap.mp hc
    cases t with
    | char d =>
      obtain rfl := List.mem_singleton.mp hc
      have hmem := mem_of_char_mem hts ht
      rwa [List.mem_append, List.mem_singleton] at hmem
    | one => exact .inr (List.mem_singleton.mp hc)
    | many => exact absurd hc List.not_mem_nil
  · rw [like, containing, tokens_many_cons, hts]
    exact matchesAll_many.mpr ⟨_, List.suffix_refl _, matchesAll_shortest⟩
  · exact h (hplain (hsub.eq_of_length (le_antisymm hsub.length_le hle)).symm)

/-! ## Patterns that match themselves -/

/-- A pattern without an escape matches itself. -/
theorem like_self (h : sp.escape ∉ pattern) : like sp pattern pattern = true := by
  have hself : ∃ ts, tokens sp pattern = some ts ∧ matchesAll ts pattern = true := by
    induction pattern with
    | nil => exact ⟨[], rfl, rfl⟩
    | cons c pattern ih =>
      obtain ⟨hc, hrest⟩ := List.ne_and_not_mem_of_not_mem_cons h
      obtain ⟨ts, hts, hmatch⟩ := ih hrest
      refine ⟨token sp c :: ts, by rw [tokens_cons (Ne.symm hc), hts]; rfl, ?_⟩
      unfold token
      split_ifs
      · exact matchesAll_many.mpr ⟨pattern, List.suffix_cons c pattern, hmatch⟩
      · exact matchesAll_one.mpr ⟨c, pattern, rfl, hmatch⟩
      · exact matchesAll_char.mpr ⟨pattern, rfl, hmatch⟩
  obtain ⟨ts, hts, hmatch⟩ := hself
  rw [like, hts]
  exact hmatch

/-- What a pattern of plain and escaped characters matches is no longer than it, and
    shorter where it has an escape. -/
theorem length_of_like (hmany : sp.many ∉ pattern) (hone : sp.one ∉ pattern)
    (h : like sp text pattern = true) :
    text.length ≤ pattern.length ∧ (text.length = pattern.length → sp.escape ∉ pattern) := by
  have hchar : ∀ {c : α}, c ≠ sp.many → c ≠ sp.one → token sp c = .char c := by
    intro c hmany hone
    rw [token, if_neg hmany, if_neg hone]
  obtain ⟨ts, hts, hmatch⟩ := Option.any_eq_true _ _ |>.mp h
  clear h
  induction pattern using tokens.induct sp generalizing ts text with
  | case1 =>
    rw [← Option.some.inj hts, matchesAll, List.isEmpty_iff] at hmatch
    rw [hmatch]
    exact ⟨le_refl _, fun _ => List.not_mem_nil⟩
  | case2 => simp [tokens] at hts
  | case3 c hne =>
    rw [List.mem_singleton, eq_comm] at hmany hone
    rw [tokens, if_neg hne, hchar hmany hone] at hts
    rw [← Option.some.inj hts] at hmatch
    obtain ⟨rest, rfl, hrest⟩ := matchesAll_char.mp hmatch
    rw [matchesAll, List.isEmpty_iff] at hrest
    rw [hrest]
    refine ⟨le_refl _, fun _ hmem => hne (List.mem_singleton.mp hmem).symm⟩
  | case4 d pattern ih =>
    rw [tokens_escape_cons] at hts
    obtain ⟨tail, htail, rfl⟩ := Option.map_eq_some_iff.mp hts
    obtain ⟨rest, rfl, hrest⟩ := matchesAll_char.mp hmatch
    have hskip : ∀ {c : α}, c ∉ sp.escape :: d :: pattern → c ∉ pattern := fun h hmem =>
      h (List.mem_cons_of_mem _ (List.mem_cons_of_mem _ hmem))
    obtain ⟨hle, -⟩ := ih (hskip hmany) (hskip hone) tail htail hrest
    simp only [List.length_cons]
    exact ⟨by omega, fun heq => by omega⟩
  | case5 c d pattern hne ih =>
    obtain ⟨hmany', hmany⟩ := List.ne_and_not_mem_of_not_mem_cons hmany
    obtain ⟨hone', hone⟩ := List.ne_and_not_mem_of_not_mem_cons hone
    rw [tokens_cons hne, hchar (Ne.symm hmany') (Ne.symm hone')] at hts
    obtain ⟨tail, htail, rfl⟩ := Option.map_eq_some_iff.mp hts
    obtain ⟨rest, rfl, hrest⟩ := matchesAll_char.mp hmatch
    obtain ⟨hle, hplain⟩ := ih hmany hone tail htail hrest
    rw [List.length_cons, List.length_cons]
    exact ⟨Nat.succ_le_succ hle, fun heq =>
      List.not_mem_cons_of_ne_of_not_mem (Ne.symm hne) (hplain (Nat.succ.inj heq))⟩

/-- A pattern of plain and escaped characters matches itself where it has no escape. -/
theorem like_self_iff (hmany : sp.many ∉ pattern) (hone : sp.one ∉ pattern) :
    like sp pattern pattern = true ↔ sp.escape ∉ pattern :=
  ⟨fun h => (length_of_like hmany hone h).2 rfl, like_self⟩

end KomiSaas.Lib.Like
