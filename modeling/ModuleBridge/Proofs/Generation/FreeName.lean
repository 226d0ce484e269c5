import Mathlib.Order.Bounds.Defs
import ModuleBridge.Generation.Identifier

/-!
# The search for a free name

A search puts underscores after a candidate, one in each round, for as long as what it has is taken
(`Search`). Nothing bounds it in advance. The names on its way decide where it ends (`search_iff`),
so it ends in one way at most. It does end, because each candidate is longer than the one before it:
the names in use that are long enough to meet it become fewer with every underscore
(`length_rivals_lt`). So a bounded number of rounds finds what the search ends with
(`exists_search_extend`). The underscores after a base are as few as leave a free name, with one at
least (`freeName_isLeast`).
-/

namespace ModuleBridge.Generation

/-- Underscores. -/
def underscores (count : Nat) : String := String.ofList (List.replicate count '_')

/-- A search that begins with a candidate ends with a name after some rounds. Each round puts an
underscore after a candidate that is taken. -/
inductive Search (taken : String → Prop) : String → Nat → String → Prop
  | found {name : String} (hfree : ¬taken name) : Search taken name 0 name
  | round {candidate name : String} {rounds : Nat} (htaken : taken candidate)
      (hrest : Search taken (candidate ++ "_") rounds name) :
      Search taken candidate (rounds + 1) name

/-- The names in use that are as long as a candidate or longer. -/
def rivals (used : List String) (candidate : String) : List String :=
  used.filter fun name => candidate.length ≤ name.length

/-- The name is reserved or in use. -/
def IsTaken (used : List String) (name : String) : Prop :=
  isReservedWord name = true ∨ name ∈ used

/-! ## Underscores -/

theorem toList_append_underscores (name : String) (count : Nat) :
    (name ++ underscores count).toList = name.toList ++ List.replicate count '_' := by
  rw [String.toList_append, underscores, String.toList_ofList]

theorem append_underscores_succ (s : String) (count : Nat) :
    s ++ "_" ++ underscores count = s ++ underscores (count + 1) := by
  rw [← String.toList_inj]
  simp [underscores, List.replicate_succ]

theorem append_underscores_zero (s : String) : s ++ underscores 0 = s := String.append_empty

section
variable {taken : String → Prop} {candidate base name name' : String} {rounds rounds' spare : Nat}
  {used : List String}

/-- No reserved word has an underscore. -/
theorem isReservedWord_of_underscore (h : '_' ∈ name.toList) : isReservedWord name = false := by
  have hwords : ∀ word ∈ reservedWords, '_' ∉ word.toList := by decide
  rw [isReservedWord, ← Bool.not_eq_true, List.contains_iff_mem]
  exact fun hmem => hwords name hmem h

/-- No reserved word ends in an underscore. -/
theorem isReservedWord_marked (name : String) (count : Nat) :
    isReservedWord (name ++ underscores (count + 1)) = false := by
  refine isReservedWord_of_underscore ?_
  rw [toList_append_underscores]
  exact List.mem_append_right _ List.mem_cons_self

/-! ## Searches -/

/-- A search ends with the first name on its way that is free. -/
theorem search_iff : Search taken candidate rounds name ↔
    name = candidate ++ underscores rounds ∧ ¬taken name ∧
      ∀ k < rounds, taken (candidate ++ underscores k) := by
  constructor
  · intro h
    induction h with
    | found hfree =>
      exact ⟨(append_underscores_zero _).symm, hfree, fun k hk => absurd hk (Nat.not_lt_zero k)⟩
    | round htaken _ ih =>
      obtain ⟨hname, hfree, hmet⟩ := ih
      refine ⟨hname.trans (append_underscores_succ _ _), hfree, fun k hk => ?_⟩
      cases k with
      | zero => rwa [append_underscores_zero]
      | succ k =>
        rw [← append_underscores_succ]
        exact hmet k (Nat.lt_of_succ_lt_succ hk)
  · rintro ⟨rfl, hfree, hmet⟩
    induction rounds generalizing candidate with
    | zero =>
      rw [append_underscores_zero] at hfree ⊢
      exact .found hfree
    | succ rounds ih =>
      rw [← append_underscores_succ] at hfree ⊢
      have hcandidate := hmet 0 (Nat.succ_pos rounds)
      rw [append_underscores_zero] at hcandidate
      refine .round hcandidate (ih hfree fun k hk => ?_)
      rw [append_underscores_succ]
      exact hmet (k + 1) (Nat.succ_lt_succ hk)

/-- A search ends in one way at most. -/
theorem Search.unique (h : Search taken candidate rounds name)
    (h' : Search taken candidate rounds' name') : rounds = rounds' ∧ name = name' := by
  induction h generalizing rounds' with
  | found hfree =>
    cases h' with
    | found => exact ⟨rfl, rfl⟩
    | round htaken _ => exact absurd htaken hfree
  | round htaken _ ih =>
    cases h' with
    | found hfree => exact absurd htaken hfree
    | round _ hrest =>
      obtain ⟨rfl, rfl⟩ := ih hrest
      exact ⟨rfl, rfl⟩

/-! ## Rivals -/

/-- A candidate that is in use loses a rival with its underscore. -/
theorem length_rivals_lt (h : candidate ∈ used) :
    (rivals used (candidate ++ "_")).length < (rivals used candidate).length := by
  have hlength : (candidate ++ "_").length = candidate.length + 1 := String.length_append ..
  have hfewer : rivals used (candidate ++ "_") =
      (rivals used candidate).filter fun name => (candidate ++ "_").length ≤ name.length := by
    rw [rivals, rivals, List.filter_filter]
    refine List.filter_congr fun name _ => ?_
    rw [← Bool.decide_and]
    exact decide_eq_decide.2 (by omega)
  rw [hfewer, List.length_filter_lt_length_iff_exists]
  refine ⟨candidate, List.mem_filter.2 ⟨h, by simp⟩, ?_⟩
  rw [decide_eq_true_iff]
  omega

/-- Each round of a search that only meets names in use costs a rival. -/
theorem Search.rounds_le (h : Search taken candidate rounds name)
    (hused : ∀ k, taken (candidate ++ underscores k) → candidate ++ underscores k ∈ used) :
    rounds ≤ (rivals used candidate).length := by
  induction h with
  | found => exact Nat.zero_le _
  | round htaken _ ih =>
    have hcandidate := hused 0
    rw [append_underscores_zero] at hcandidate
    refine Nat.lt_of_le_of_lt (ih fun k => ?_) (length_rivals_lt (hcandidate htaken))
    rw [append_underscores_succ]
    exact hused (k + 1)

/-- With as many underscores to spare as there are rivals, the search comes to its end. -/
theorem exists_search_extendWithin (h : (rivals used candidate).length ≤ spare) :
    ∃ rounds, Search (· ∈ used) candidate rounds (extendWithin used spare candidate) := by
  induction spare generalizing candidate with
  | zero =>
    refine ⟨0, .found fun hmem => ?_⟩
    exact Nat.not_lt_zero _ (Nat.lt_of_lt_of_le (length_rivals_lt hmem) h)
  | succ spare ih =>
    by_cases hmem : candidate ∈ used
    · rw [extendWithin, if_pos (List.contains_iff_mem.2 hmem)]
      have hspare := Nat.le_of_lt_succ (Nat.lt_of_lt_of_le (length_rivals_lt hmem) h)
      obtain ⟨rounds, hrest⟩ := ih hspare
      exact ⟨rounds + 1, .round hmem hrest⟩
    · rw [extendWithin, if_neg (mt List.contains_iff_mem.1 hmem)]
      exact ⟨0, .found hmem⟩

/-- What the loop finds is found by a search. -/
theorem exists_search_extend (used : List String) (candidate : String) :
    ∃ rounds, Search (· ∈ used) candidate rounds (extend used candidate) :=
  exists_search_extendWithin (List.length_filter_le _ _)

/-- Only underscores are put after a candidate, and another one only after a name in use. -/
theorem exists_extend (used : List String) (candidate : String) :
    ∃ count, extend used candidate = candidate ++ underscores count ∧
      ∀ k < count, candidate ++ underscores k ∈ used := by
  obtain ⟨rounds, hsearch⟩ := exists_search_extend used candidate
  obtain ⟨hname, -, hmet⟩ := search_iff.1 hsearch
  exact ⟨rounds, hname, hmet⟩

/-- The name that is found is not in use. -/
theorem extend_not_mem (used : List String) (candidate : String) :
    extend used candidate ∉ used := by
  obtain ⟨rounds, hsearch⟩ := exists_search_extend used candidate
  exact (search_iff.1 hsearch).2.1

/-! ## Free names -/

/-- A name is taken if it is reserved or in use. -/
theorem isTaken_iff_mem : IsTaken used name ↔ name ∈ reservedWords ++ used := by
  rw [IsTaken, isReservedWord, List.contains_iff_mem, List.mem_append]

/-- With an underscore at its end a name can be in use, but not reserved. -/
theorem isTaken_marked_iff (used : List String) (base : String) (count : Nat) :
    IsTaken used (base ++ underscores (count + 1)) ↔ base ++ underscores (count + 1) ∈ used := by
  rw [IsTaken, isReservedWord_marked, or_iff_right Bool.false_ne_true]

/-- The search behind one underscore ends, and with the free name. -/
theorem exists_search_freeName (base : String) (used : List String) :
    ∃ rounds, Search (IsTaken used) (base ++ "_") rounds (freeName base used) := by
  have htaken : IsTaken used = (· ∈ reservedWords ++ used) :=
    funext fun _ => propext isTaken_iff_mem
  rw [htaken]
  exact exists_search_extend (reservedWords ++ used) (base ++ "_")

/-- A free name is its base with underscores after it, and neither reserved nor in use. -/
theorem freeName_spec (base : String) (used : List String) :
    (∃ count, freeName base used = base ++ underscores (count + 1)) ∧
      isReservedWord (freeName base used) = false ∧ freeName base used ∉ used := by
  obtain ⟨rounds, hsearch⟩ := exists_search_freeName base used
  obtain ⟨hname, hfree, -⟩ := search_iff.1 hsearch
  rw [IsTaken, not_or, Bool.not_eq_true] at hfree
  exact ⟨⟨rounds, hname.trans (append_underscores_succ base rounds)⟩, hfree⟩

/-- **The free name for a base.** The search for one ends, whatever the names in use are, and the
free name is all that it can end with: the base with underscores after it, the least number of them
that is one at least and leaves a name which is neither reserved nor in use. There are at most as
many rounds as there are names in use. Reference: `free_name`. -/
theorem freeName_isLeast (base : String) (used : List String) :
    ∃ k, freeName base used = base ++ underscores k ∧
      IsLeast {k | 1 ≤ k ∧ ¬(isReservedWord (base ++ underscores k) = true ∨
        base ++ underscores k ∈ used)} k ∧
      (∀ rounds name, Search (IsTaken used) (base ++ "_") rounds name ↔
        rounds + 1 = k ∧ name = freeName base used) ∧
      k ≤ used.length + 1 := by
  obtain ⟨rounds, hsearch⟩ := exists_search_freeName base used
  obtain ⟨hname, hfree, hmet⟩ := search_iff.1 hsearch
  rw [append_underscores_succ] at hname
  have hused : ∀ k, IsTaken used (base ++ "_" ++ underscores k) →
      base ++ "_" ++ underscores k ∈ used := by
    intro k htaken
    rw [append_underscores_succ] at htaken ⊢
    exact (isTaken_marked_iff used base k).1 htaken
  have hbound : rounds ≤ used.length :=
    Nat.le_trans (hsearch.rounds_le hused) (List.length_filter_le _ _)
  refine ⟨rounds + 1, hname, ⟨⟨Nat.succ_pos rounds, hname ▸ hfree⟩, ?_⟩, ?_,
    Nat.succ_le_succ hbound⟩
  · rintro k ⟨hk, hunused⟩
    obtain ⟨k, rfl⟩ := Nat.exists_eq_add_of_le' hk
    refine Nat.succ_le_succ (Nat.le_of_not_lt fun hlt => ?_)
    exact hunused (append_underscores_succ base k ▸ hmet k hlt)
  · intro rounds' name
    constructor
    · intro h
      obtain ⟨rfl, rfl⟩ := h.unique hsearch
      exact ⟨rfl, rfl⟩
    · rintro ⟨hrounds, rfl⟩
      cases hrounds
      exact hsearch

/-- Names in use are passed over, but none beyond the first gap. -/
example : freeName "new" ["new__", "new", "new_", "new____"] = "new___" := by decide

end

end ModuleBridge.Generation
