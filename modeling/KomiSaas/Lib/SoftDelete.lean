import KomiSaas.Lib.Flights

/-!
# Rows that are marked as deleted

A system of requests that load a row which is not marked as deleted, and write it
with `UPDATE … WHERE key AND NOT deleted`. A request may hold a copy that it
loaded before the row was marked; its write matches nothing then.

* `SoftDelete`: what the system has to meet.
* `SoftDelete.staysDeleted`: once a deletion completed, its row is marked, and
  no later step changes any of its columns.
-/

namespace KomiSaas.Lib.Flights

variable {ρ κ ι φ ω : Type*} [DecidableEq κ]

/-- Requests load stored rows, and write the rows with their key that are not marked.
    Those that delete mark them. -/
structure SoftDelete (sys : System (List ρ) ι φ ω) (keyOf : ρ → κ) (isDeleted : ρ → Bool)
    (flightKey : φ → κ) (deletes : φ → Bool) : Prop where
  read : ∀ {store store' call result}, sys.read store call = (store', result) →
    store' = store ∧ ∀ flight, result = some flight → flightKey flight ∈ store.map keyOf
  write : ∀ {store store' flight input}, sys.write store flight input = some store' →
    ∃ set : ρ → ρ, (∀ row, keyOf (set row) = keyOf row) ∧
      (deletes flight = true → ∀ row, isDeleted (set row) = true) ∧
      store' =
        Rows.updateWhere (fun row => keyOf row = flightKey flight && !isDeleted row) set store

/-- Once a deletion completed, its row is marked, and is the same in every later
    state. -/
def StaysDeleted (sys : System (List ρ) ι φ ω) (keyOf : ρ → κ) (isDeleted : ρ → Bool)
    (flightKey : φ → κ) (deletes : φ → Bool)
    (tr : List (Transition (State (List ρ) φ) (Action ι ω))) : Prop :=
  ∀ tr₁ t tr₂ flight, tr = tr₁ ++ t :: tr₂ → Writes sys t flight → deletes flight = true →
    ∃ row, Rows.find keyOf (flightKey flight) t.post.store = some row ∧ isDeleted row = true ∧
      ∀ t' ∈ tr₂, Rows.find keyOf (flightKey flight) t'.post.store = some row

namespace SoftDelete

variable {sys : System (List ρ) ι φ ω} {keyOf : ρ → κ} {isDeleted : ρ → Bool}
  {flightKey : φ → κ} {deletes : φ → Bool} {store store' : List ρ} {flight : φ} {input : ω}

/-- A write changes the row of its key where that is not marked, and no other. -/
theorem find_write (hsys : SoftDelete sys keyOf isDeleted flightKey deletes)
    (h : sys.write store flight input = some store') :
    ∃ set : ρ → ρ, (deletes flight = true → ∀ row, isDeleted (set row) = true) ∧
      ∀ k, Rows.find keyOf k store' = (Rows.find keyOf k store).map fun row =>
        if keyOf row = flightKey flight ∧ isDeleted row = false then set row else row := by
  obtain ⟨set, hkey, hmarks, rfl⟩ := hsys.write h
  refine ⟨set, hmarks, fun k => ?_⟩
  rw [Rows.find_updateWhere fun row _ => hkey row]
  simp only [Bool.and_eq_true, decide_eq_true_eq, Bool.not_eq_true']

theorem keys_write (hsys : SoftDelete sys keyOf isDeleted flightKey deletes)
    (h : sys.write store flight input = some store') : store'.map keyOf = store.map keyOf := by
  obtain ⟨set, hkey, -, rfl⟩ := hsys.write h
  exact Rows.map_updateWhere fun row _ _ => hkey row

/-- No request touches a row that is marked. -/
theorem settles (hsys : SoftDelete sys keyOf isDeleted flightKey deletes) :
    Settles sys (fun store k => Rows.find keyOf k store) (fun row => isDeleted row = true) where
  read hread h _ := by
    rw [(hsys.read hread).1]
    exact h
  write hwrite h hmarked := by
    obtain ⟨set, -, hfind⟩ := hsys.find_write hwrite
    show Rows.find keyOf _ _ = _
    rw [hfind, h, Option.map_some, if_neg]
    intro hand
    rw [hmarked] at hand
    exact Bool.false_ne_true hand.2.symm

/-- What is in flight is stored. -/
theorem keeps_stored (hsys : SoftDelete sys keyOf isDeleted flightKey deletes) :
    Keeps sys (fun _ => True) (fun store flight => flightKey flight ∈ store.map keyOf)
      fun _ _ => True where
  symm _ := trivial
  read _ hread := by
    rw [(hsys.read hread).1]
    exact ⟨trivial, fun _ h => h⟩
  took _ _ hread _ := by
    obtain ⟨rfl, hstored⟩ := hsys.read hread
    exact ⟨hstored _ rfl, fun _ _ => trivial⟩
  wrote _ _ hwrite := by
    refine ⟨trivial, fun other hother _ => ?_⟩
    rw [hsys.keys_write hwrite]
    exact hother

/-- After a deletion completed its row is marked. -/
theorem marked_of_write (hsys : SoftDelete sys keyOf isDeleted flightKey deletes)
    (hstored : flightKey flight ∈ store.map keyOf)
    (h : sys.write store flight input = some store') (hdeletes : deletes flight = true) :
    ∃ row, Rows.find keyOf (flightKey flight) store' = some row ∧ isDeleted row = true := by
  obtain ⟨old, hold⟩ := Rows.exists_find_of_mem_keys hstored
  obtain ⟨set, hmarks, hfind⟩ := hsys.find_write h
  obtain ⟨-, hkey⟩ := Rows.mem_of_find hold
  rw [hfind, hold, Option.map_some]
  refine ⟨_, rfl, ?_⟩
  cases hold : isDeleted old with
  | true =>
    -- another deletion completed first
    rw [if_neg fun hand => Bool.false_ne_true hand.2.symm]
    exact hold
  | false =>
    rw [if_pos ⟨hkey, rfl⟩]
    exact hmarks hdeletes old

/-- For every interleaving of any number of requests: what was deleted stays deleted,
    and keeps all its columns. -/
theorem staysDeleted {tr : List (Transition (State (List ρ) φ) (Action ι ω))}
    {s : State (List ρ) φ} (hsys : SoftDelete sys keyOf isDeleted flightKey deletes)
    (hrun : Run (next sys) (State.quiet store) tr s) :
    StaysDeleted sys keyOf isDeleted flightKey deletes tr := by
  rintro tr₁ t tr₂ flight rfl hwrites hdeletes
  obtain ⟨hbefore, -, hafter⟩ := hrun.of_append_cons
  obtain ⟨request, input, -, hflight, hwrite⟩ := hwrites
  have hinv := (hbefore.invariant (fun _ _ _ h hnext => h.step hsys.keeps_stored hnext)
    (Inv.quiet trivial)).1
  have hstored := hinv.flights _ (mem_of_flight hflight)
  obtain ⟨row, hrow, hmarked⟩ := hsys.marked_of_write hstored hwrite hdeletes
  exact ⟨row, hrow, hmarked, hsys.settles.run hafter hrow hmarked⟩

end SoftDelete

end KomiSaas.Lib.Flights
