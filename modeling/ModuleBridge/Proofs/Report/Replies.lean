import ModuleBridge.Proofs.Report.Reading
import ModuleBridge.Session.Message

/-!
# Replies with the same outline

A reply of a session has fields with names of their own and free details, which may have any keys.
Without colours such a key may hold rows that look like those of the fields, so an outline is read
from both sides: the fields in front of the details from the front (`membersText_cons_inj`), the
message behind them from the end (`lastText_inj`). What is left takes the same rows. So two replies
have the same outline exactly if they show the same (`outline_reply_iff`).
-/

namespace ModuleBridge.Report

open Session (Status RegisterResponse ExecuteResponse)
open Text (OneRow ended)

/-! ## Reports that show the same -/

/-- The strings show the same: they are equal, or both have line feeds and they have the same
lines. -/
def AlikeText (s t : String) : Prop :=
  s = t ∨ hasLineFeed s = true ∧ hasLineFeed t = true ∧ Text.lines s = Text.lines t

/-- The details take the same rows. -/
def AlikeDetails (isColoured : Bool) (details details' : List Json) : Prop :=
  Text.joinWith "\n" (entryLines isColoured 1 "details:" (.array details)) =
    Text.joinWith "\n" (entryLines isColoured 1 "details:" (.array details'))

/-- The statuses show the same. -/
structure AlikeStatus (isColoured : Bool) (s t : Status) : Prop where
  code : s.code = t.code
  message : AlikeText s.message t.message
  details : AlikeDetails isColoured s.details t.details

/-- The replies to a script show the same. -/
structure AlikeReply (isColoured : Bool) (r r' : ExecuteResponse) : Prop where
  status : AlikeStatus isColoured r.status r'.status
  d3Log : AlikeText r.d3Log r'.d3Log
  pythonLog : AlikeText r.pythonLog r'.pythonLog
  returnValue : AlikeText r.returnValue r'.returnValue

section
variable {isColoured : Bool} {depth : Nat} {s t key : String} {rest front front' : List Char}

/-! ## Strings and lists -/

/-- Texts show the same exactly if they are alike. -/
theorem view_string_eq_iff :
    view isColoured (.string s) = view isColoured (.string t) ↔ AlikeText s t := by
  rw [view, view]
  unfold AlikeText
  by_cases hs : hasLineFeed s = true <;> by_cases ht : hasLineFeed t = true <;>
    simp only [hs, ht, if_true, if_false, Bool.false_eq_true, View.block.injEq, View.inline.injEq,
      Json.string.injEq, true_and, false_and, and_false, or_false, reduceCtorEq, false_iff]
  · exact ⟨.inr, fun h => h.elim (fun h => h ▸ rfl) id⟩
  · rintro rfl
    exact ht hs
  · rintro rfl
    exact hs ht

/-- Lists show the same if their items are alike, one by one. -/
theorem itemViews_map_eq_iff {α : Type} {f : α → Json} {alike : α → α → Prop}
    (hf : ∀ x y, view isColoured (f x) = view isColoured (f y) ↔ alike x y) {xs ys : List α} :
    itemViews isColoured (xs.map f) = itemViews isColoured (ys.map f) ↔
      List.Forall₂ alike xs ys := by
  induction xs generalizing ys with
  | nil => cases ys <;> simp [itemViews]
  | cons x xs ih => cases ys <;> simp [itemViews, hf, ih]

/-- Arrays show the same exactly if their items do. -/
theorem view_array_eq_iff {vs ws : List Json} :
    view isColoured (.array vs) = view isColoured (.array ws) ↔
      itemViews isColoured vs = itemViews isColoured ws := by
  cases vs <;> cases ws <;> simp [view, itemViews]

/-! ## Members -/

/-- What is written for members is not deeper than what is written before them. -/
theorem ends_membersText (hkey : Legible key) (u : View) (views : List (String × View)) :
    Ends (depth + 1) (membersText isColoured depth ((key, u) :: views)) := by
  rw [membersText, List.append_assoc, List.append_assoc]
  exact ends_indent (not_prefix_key isColoured (fun _ => hkey) _).1

/-- The first of some members can be read back. -/
theorem membersText_cons_inj {u u' : View} {views views' : List (String × View)}
    (hu : u.Fits isColoured) (hu' : u'.Fits isColoured)
    (hrest : Ends (depth + 1) (membersText isColoured depth views))
    (hrest' : Ends (depth + 1) (membersText isColoured depth views'))
    (h : membersText isColoured depth ((key, u) :: views) =
      membersText isColoured depth ((key, u') :: views')) :
    u = u' ∧ membersText isColoured depth views = membersText isColoured depth views' := by
  simp only [membersText, List.append_assoc, List.append_cancel_left_eq, List.cons_append] at h
  exact View.determines hu depth u' hu' _ _ hrest hrest' (List.cons.inj h).2

/-- What is shown of a text can be read back. -/
theorem fits_string (s : String) : (view isColoured (.string s)).Fits isColoured :=
  fits_view (.string s) fun _ => trivial

/-! ## The last member -/

/-- What is written ends its last row. -/
theorem getLast?_ended (texts : List String) : ∀ c ∈ (ended texts).getLast?, c = '\n' := by
  intro c hc
  rcases List.eq_nil_or_concat texts with rfl | ⟨texts, t, rfl⟩
  · cases hc
  · rw [List.concat_eq_append, Text.ended_append, Text.ended_cons, List.getLast?_append,
      List.getLast?_append] at hc
    exact (Option.some.inj hc).symm

/-- Behind each line feed of rows that are deeper after the first stands a deeper row, or
nothing. -/
theorem deeper_of_newline {first : List Char} {lines : List String} (hfirst : '\n' ∉ first)
    (hlines : ∀ line ∈ lines, OneRow line)
    (h : first ++ '\n' :: lines.flatMap (rowText isColoured depth) = front ++ '\n' :: rest) :
    rest = [] ∨ ¬ Ends depth rest := by
  induction lines generalizing first front with
  | nil =>
    rcases Text.append_cons_cases hfirst h with ⟨-, hrest⟩ | ⟨more, -, hnil⟩
    · exact .inl hrest.symm
    · exact absurd hnil (by simp)
  | cons line lines ih =>
    obtain ⟨hline, hothers⟩ := List.forall_mem_cons.1 hlines
    rcases Text.append_cons_cases hfirst h with ⟨-, rfl⟩ | ⟨more, -, hbelow⟩
    · have hrows : ¬ Ends depth ((line :: lines).flatMap (rowText isColoured depth) ++ []) :=
        not_ends_rows (List.cons_ne_nil line lines)
      rw [List.append_nil] at hrows
      exact .inr hrows
    · have hrow : '\n' ∉ (indent depth).toList ++ (paint isColoured .string line).toList :=
        List.not_mem_append (oneRow_indent depth) (oneRow_paint _ _ hline)
      refine ih hrow hothers (Eq.trans ?_ hbelow)
      rw [List.flatMap_cons, rowText]
      simp

/-- A string that is the last member of an object. -/
def lastText (isColoured : Bool) (depth : Nat) (key s : String) : List Char :=
  membersText isColoured depth [(key, view isColoured (.string s))]

/-- The string takes one row or several, of which all but the first are deeper than its key. -/
theorem exists_rows (isColoured : Bool) (depth : Nat) (hkey : Legible key) (s : String) :
    ∃ (first : List Char) (lines : List String), '\n' ∉ first ∧ (∀ line ∈ lines, OneRow line) ∧
      lastText isColoured depth key s =
        first ++ '\n' :: lines.flatMap (rowText isColoured (depth + 1)) := by
  have hlabel :
      '\n' ∉ (indent depth).toList ++ (paint isColoured .key key).toList ++ [':', ' '] :=
    List.not_mem_append (List.not_mem_append (oneRow_indent depth) (oneRow_paint _ _ hkey.row))
      (by decide)
  rw [lastText, view]
  split
  · have hbar : '\n' ∉ ['|'] := by decide
    refine ⟨_, Text.lines s, List.not_mem_append hlabel hbar,
      fun _ => Text.oneRow_of_mem_lines, ?_⟩
    simp [membersText, View.text]
  · next h =>
    have hs : OneRow s := fun hmem => h (hasLineFeed_iff.2 hmem)
    refine ⟨_, [], List.not_mem_append hlabel (oneRow_paint isColoured .string hs), nofun, ?_⟩
    simp [membersText, View.text, scalarText]

/-- Two reports that end with a string under one key have the same string there, and the same in
front of it, as neither of the strings has a row that could be the other's first. -/
theorem lastText_inj (hkey : Legible key) (hfront : ∀ c ∈ front.getLast?, c = '\n')
    (hfront' : ∀ c ∈ front'.getLast?, c = '\n')
    (h : front ++ lastText isColoured depth key s = front' ++ lastText isColoured depth key t) :
    front = front' ∧ lastText isColoured depth key s = lastText isColoured depth key t := by
  have hnone {front between : List Char} {s t : String}
      (hfront : ∀ c ∈ (front ++ between).getLast?, c = '\n')
      (h : lastText isColoured depth key s = between ++ lastText isColoured depth key t) :
      between = [] := by
    rcases List.eq_nil_or_concat between with rfl | ⟨between, c, rfl⟩
    · rfl
    · have hc : c = '\n' := hfront c (by simp)
      obtain ⟨first, lines, hfirst, hlines, hrows⟩ := exists_rows isColoured depth hkey s
      rw [hrows, hc, List.concat_eq_append, List.append_assoc] at h
      have hends : Ends (depth + 1) (lastText isColoured depth key t) :=
        ends_membersText hkey _ []
      rcases deeper_of_newline hfirst hlines h with hnil | hdeeper
      · obtain ⟨first, lines, -, -, hrows⟩ := exists_rows isColoured depth hkey t
        rw [hrows] at hnil
        exact absurd hnil (by simp)
      · exact absurd hends hdeeper
  rcases List.append_eq_append_iff.1 h with ⟨between, rfl, hs⟩ | ⟨between, rfl, ht⟩
  · obtain rfl := hnone hfront' hs
    exact ⟨(List.append_nil _).symm, hs⟩
  · obtain rfl := hnone hfront ht
    exact ⟨List.append_nil _, ht.symm⟩

/-! ## Statuses -/

/-- Integers show the same exactly if they are the same. -/
theorem view_ofInt_eq_iff {a b : Int} :
    view isColoured (.ofInt a) = view isColoured (.ofInt b) ↔ a = b := by
  refine ⟨fun h => ?_, fun h => by rw [h]⟩
  cases isColoured with
  | true =>
    simp only [Json.ofInt, view, bare, if_true, View.inline.injEq, Json.number.injEq,
      JsonNumber.integer.injEq] at h
    exact h
  | false =>
    simp only [Json.ofInt, view, bare, Bool.false_eq_true, if_false, View.inline.injEq,
      Json.string.injEq] at h
    exact JsonNumber.integer_inj (String.ofList_injective h)

/-- The members of a status in their order in an outline. -/
def statusMembers (s : Status) : List (String × Json) :=
  [("code", .ofInt s.code), ("details", .array s.details), ("message", .string s.message)]

/-- The details of a status are in the order of their keys. -/
def InOrder (details : List Json) : Prop :=
  ∀ v ∈ details, v.sorted = v

/-- The document of a status. -/
theorem toJson_status (s : Status) :
    Status.shape.toJson s = .object [("code", .ofInt s.code), ("message", .string s.message),
      ("details", .array s.details)] := by
  rw [← List.map_id s.details]
  rfl

/-- The document of a status with its members in the order of their names. -/
theorem sorted_status {s : Status} (h : InOrder s.details) :
    (Status.shape.toJson s).sorted = .object (statusMembers s) := by
  have hdetails : (Json.array s.details).sorted = .array s.details := by
    rw [Json.sorted, Json.sortedItems_eq, List.map_congr_left h, List.map_id']
  rw [toJson_status, statusMembers]
  nth_rewrite 2 [← hdetails]
  rfl

/-- The text of a view ends in a line feed. -/
theorem getLast?_text (isColoured : Bool) (depth : Nat) (v : Json) :
    ∀ c ∈ ((view isColoured v).text isColoured depth).getLast?, c = '\n' := by
  have hended := getLast?_ended (entryLines isColoured depth "" v)
  rwa [ended_entryLines, String.toList_empty, List.nil_append] at hended

/-- What is written for a status determines what it shows, whatever keys its details have: the
message is read from the end. -/
theorem statusText_eq_iff {s t : Status} :
    membersText isColoured depth (memberViews isColoured (statusMembers s)) =
        membersText isColoured depth (memberViews isColoured (statusMembers t)) ↔
      s.code = t.code ∧ AlikeText s.message t.message ∧
        (view isColoured (.array s.details)).text isColoured depth =
          (view isColoured (.array t.details)).text isColoured depth := by
  simp only [statusMembers, memberViews]
  have hsplit (u : View) (message : String) :
      membersText isColoured depth
          [("details", u), ("message", view isColoured (.string message))] =
        (indent depth).toList ++ (paint isColoured .key "details").toList ++ [':'] ++
          (u.text isColoured depth ++ lastText isColoured depth "message" message) := by
    rw [membersText, lastText]
    simp
  constructor
  · intro h
    have hfits (n : Int) : (view isColoured (.ofInt n)).Fits isColoured :=
      fits_view (.number trivial) fun _ => trivial
    obtain ⟨hcode, hothers⟩ := membersText_cons_inj (hfits s.code) (hfits t.code)
      (ends_membersText (by decide) _ _) (ends_membersText (by decide) _ _) h
    rw [hsplit, hsplit, List.append_cancel_left_eq] at hothers
    obtain ⟨hdetails, hlast⟩ := lastText_inj (by decide) (getLast?_text _ _ _)
      (getLast?_text _ _ _) hothers
    obtain ⟨hmessage, -⟩ := membersText_cons_inj (fits_string s.message) (fits_string t.message)
      Ends.of_nil Ends.of_nil hlast
    exact ⟨view_ofInt_eq_iff.1 hcode, view_string_eq_iff.1 hmessage, hdetails⟩
  · rintro ⟨hcode, hmessage, hdetails⟩
    have hviews : view isColoured (.string s.message) = view isColoured (.string t.message) :=
      view_string_eq_iff.2 hmessage
    simp only [membersText, hcode, hdetails, hviews]

/-- Details are alike exactly if they have the same text below their key. -/
theorem alikeDetails_iff {details details' : List Json} :
    AlikeDetails isColoured details details' ↔
      (view isColoured (.array details)).text isColoured 1 =
        (view isColoured (.array details')).text isColoured 1 :=
  joinWith_entryLines_eq_iff "details:"

/-- Statuses have the same text exactly if they are alike. -/
theorem alikeStatus_iff {s t : Status} :
    membersText isColoured 1 (memberViews isColoured (statusMembers s)) =
        membersText isColoured 1 (memberViews isColoured (statusMembers t)) ↔
      AlikeStatus isColoured s t := by
  rw [statusText_eq_iff, ← alikeDetails_iff]
  exact ⟨fun h => ⟨h.1, h.2.1, h.2.2⟩, fun h => ⟨h.code, h.message, h.details⟩⟩

/-- A status under its key. -/
theorem statusMember_eq_iff {s t : Status} :
    membersText isColoured 0 (memberViews isColoured [("status", .object (statusMembers s))]) =
        membersText isColoured 0 (memberViews isColoured [("status", .object (statusMembers t))]) ↔
      AlikeStatus isColoured s t := by
  have hsplit (s : Status) :
      membersText isColoured 0 (memberViews isColoured [("status", .object (statusMembers s))]) =
        (indent 0).toList ++ (paint isColoured .key "status").toList ++ [':', '\n'] ++
          membersText isColoured 1 (memberViews isColoured (statusMembers s)) := by
    rw [memberViews, memberViews, membersText, membersText, statusMembers, view, View.text]
    simp
  rw [hsplit, hsplit, List.append_cancel_left_eq, alikeStatus_iff]

/-! ## Replies -/

/-- The outlines of two registrations are the same exactly if their statuses are alike. -/
theorem outline_register_iff {r r' : RegisterResponse} (h : InOrder r.status.details)
    (h' : InOrder r'.status.details) :
    outline isColoured (RegisterResponse.shape.toJson r) =
        outline isColoured (RegisterResponse.shape.toJson r') ↔
      AlikeStatus isColoured r.status r'.status := by
  have hsorted {r : RegisterResponse} (h : InOrder r.status.details) :
      (RegisterResponse.shape.toJson r).sorted =
        .object [("status", .object (statusMembers r.status))] := by
    rw [← sorted_status h]
    rfl
  rw [outline_object_iff (hsorted h) (hsorted h') (List.cons_ne_nil _ _) (List.cons_ne_nil _ _),
    statusMember_eq_iff]

/-- The members of a reply in their order in an outline. -/
def replyMembers (r : ExecuteResponse) : List (String × Json) :=
  [("d3Log", .string r.d3Log), ("pythonLog", .string r.pythonLog),
    ("returnValue", .string r.returnValue), ("status", .object (statusMembers r.status))]

/-- A string in front of other members can be read back. -/
theorem stringMember_eq_iff {members members' : List (String × Json)} {next : String}
    {u u' : Json} (hnext : Legible next) :
    membersText isColoured depth
          (memberViews isColoured ((key, .string s) :: (next, u) :: members)) =
        membersText isColoured depth
          (memberViews isColoured ((key, .string t) :: (next, u') :: members')) ↔
      AlikeText s t ∧
        membersText isColoured depth (memberViews isColoured ((next, u) :: members)) =
          membersText isColoured depth (memberViews isColoured ((next, u') :: members')) := by
  constructor
  · intro h
    rw [memberViews, memberViews] at h
    obtain ⟨hs, hothers⟩ := membersText_cons_inj (fits_string s) (fits_string t)
      (ends_membersText hnext _ _) (ends_membersText hnext _ _) h
    exact ⟨view_string_eq_iff.1 hs, hothers⟩
  · rintro ⟨hs, hothers⟩
    have hviews : view isColoured (.string s) = view isColoured (.string t) :=
      view_string_eq_iff.2 hs
    rw [memberViews, memberViews.eq_def isColoured ((key, .string t) :: (next, u') :: members')]
    simp only [membersText, hothers, hviews]

/-- The outlines of two replies are the same exactly if the replies are alike. -/
theorem outline_reply_iff {r r' : ExecuteResponse} (h : InOrder r.status.details)
    (h' : InOrder r'.status.details) :
    outline isColoured (ExecuteResponse.shape.toJson r) =
        outline isColoured (ExecuteResponse.shape.toJson r') ↔
      AlikeReply isColoured r r' := by
  have hsorted {r : ExecuteResponse} (h : InOrder r.status.details) :
      (ExecuteResponse.shape.toJson r).sorted = .object (replyMembers r) := by
    rw [replyMembers, ← sorted_status h]
    rfl
  rw [outline_object_iff (hsorted h) (hsorted h') (List.cons_ne_nil _ _) (List.cons_ne_nil _ _),
    replyMembers, replyMembers, stringMember_eq_iff (by decide), stringMember_eq_iff (by decide),
    stringMember_eq_iff (by decide), statusMember_eq_iff]
  exact ⟨fun ⟨hd3, hpython, hvalue, hstatus⟩ => ⟨hstatus, hd3, hpython, hvalue⟩,
    fun h => ⟨h.d3Log, h.pythonLog, h.returnValue, h.status⟩⟩

end

end ModuleBridge.Report
