import ModuleBridge.Proofs.Wire.RoundTrip
import ModuleBridge.Session.Message

/-!
# What the body of a request carries

A request carries some texts under names if its body is an object with just these members, no two of
them under one name, and is read back as it (`Carries`). An object of texts whose names are in order
is read back whatever the texts hold (`carries_of_sorted`). The members of a registration are put in
the order of their names, and neither name that the source can be sent under is that of the module's
name, so both members are there for every contract (`registerBody_eq`).
-/

namespace ModuleBridge.Session

open Text.Utf8 (bytes)

/-- The members of an object that holds texts under names. -/
def textMembers (texts : List (String × String)) : List (String × Json) :=
  texts.map fun t => (t.1, .string t.2)

/-- The body is an object with the given texts under their names and nothing else, no name stands
for two texts, and the body decodes to that object. -/
def Carries (body : String) (texts : List (String × String)) : Prop :=
  ∃ sorted, sorted.Perm texts ∧ (sorted.map (·.1)).Nodup ∧
    body = (Json.object (textMembers sorted)).compact ∧
    Json.parse (bytes body) = .ok (.object (textMembers sorted))

section
variable {texts : List (String × String)}

/-- A plain value is read back from its text without blanks. -/
theorem parse_compact {v : Json} (h : v.IsPlain) (hn : v.nesting ≤ Json.nestingLimit) :
    Json.parse (bytes v.compact) = .ok v := by
  rw [Json.parse, bytes, Json.compact, String.toList_ofList]
  have htakes := Json.takes_value Json.Layout.isBlank_compact h hn 0
  exact Wire.run_of_takes htakes

/-- An object of texts whose names are in order carries them. -/
theorem carries_of_sorted (h : texts.Pairwise (·.1 < ·.1)) :
    Carries (Json.object (textMembers texts)).compact texts := by
  have hnames : (texts.map (·.1)).Nodup := by
    refine List.pairwise_map.2 (h.imp fun {t t'} hlt he => ?_)
    rw [he] at hlt
    exact String.lt_irrefl _ hlt
  have hplain : (Json.object (textMembers texts)).IsPlain := by
    refine .object (List.pairwise_map.2 h) fun m hm => ?_
    obtain ⟨t, -, rfl⟩ := List.mem_map.1 hm
    exact .string t.2
  have hflat : (Json.object (textMembers texts)).nesting ≤ Json.nestingLimit := by
    refine Json.nesting_object_le.2 ⟨Json.nestingLimit - 1, rfl, fun m hm => ?_⟩
    obtain ⟨t, -, rfl⟩ := List.mem_map.1 hm
    exact Nat.zero_le _
  exact ⟨texts, .refl _, hnames, rfl, parse_compact hplain hflat⟩

/-- It does not matter in which order the texts are named. -/
theorem Carries.perm {body : String} {texts' : List (String × String)} (h : Carries body texts)
    (hp : texts.Perm texts') : Carries body texts' := by
  obtain ⟨sorted, hsorted, hrest⟩ := h
  exact ⟨sorted, hsorted.trans hp, hrest⟩

end

/-! ## The two bodies -/

section
variable (contract : WireContract) (moduleName : ModuleName) (source script : String)

/-- The texts that a registration carries, the source under the field of the contract. -/
def registrationTexts : List (String × String) :=
  [("moduleName", moduleName.text), (contract.sourceField.name, source)]

/-- The texts that a script is sent with. -/
def executionTexts : List (String × String) :=
  [("moduleName", moduleName.text), ("script", script)]

/-- A registration has both of its members, in the order of their names. -/
theorem registerBody_eq : ∃ sorted, sorted.Perm (registrationTexts contract moduleName source) ∧
    sorted.Pairwise (·.1 < ·.1) ∧
    registerBody contract moduleName source = .object (textMembers sorted) := by
  obtain ⟨field⟩ := contract
  cases field with
  | contents =>
    have hlt : "contents" < "moduleName" := by decide
    refine ⟨[("contents", source), ("moduleName", moduleName.text)], .swap ..,
      List.pairwise_pair.2 hlt, ?_⟩
    simp [registerBody, Json.ofMembers, Json.insert, SourceField.name, hlt, textMembers]
  | sourceCode =>
    have hlt : "moduleName" < "sourceCode" := by decide
    refine ⟨[("moduleName", moduleName.text), ("sourceCode", source)], .refl _,
      List.pairwise_pair.2 hlt, ?_⟩
    simp [registerBody, Json.ofMembers, Json.insert, SourceField.name, String.lt_asymm hlt,
      textMembers]

/-- A registration carries the module's name and its source. Reference: `register`. -/
theorem carries_registerBody :
    Carries (registerBody contract moduleName source).compact
      (registrationTexts contract moduleName source) := by
  obtain ⟨sorted, hp, hsorted, hbody⟩ := registerBody_eq contract moduleName source
  rw [hbody]
  exact (carries_of_sorted hsorted).perm hp

/-- A request to run a script carries the module's name and the script. Reference:
`execute_script`. -/
theorem carries_executeBody :
    Carries (executeBody moduleName script).compact (executionTexts moduleName script) := by
  have hlt : "moduleName" < "script" := by decide
  have hsorted : (executionTexts moduleName script).Pairwise (·.1 < ·.1) :=
    List.pairwise_pair.2 hlt
  have hbody : executeBody moduleName script =
      .object (textMembers (executionTexts moduleName script)) := rfl
  rw [hbody]
  exact carries_of_sorted hsorted

end

end ModuleBridge.Session
