import Mathlib.Data.List.Forall2
import ModuleBridge.Json.Document
import ModuleBridge.Proofs.Json.Strings

/-!
# What a reader takes

A reader takes a text if it passes over the blanks in front of it, takes the whole text and no more,
and gives the value that the text stands for, whatever comes after it (`Takes`). Only a number may
go on with what comes after it, so that must not be a byte that does (`Ends`).

If each item of an array is taken, so is the array in any layout with blanks (`items_inside`). The
members of an object are read one after the other, each with what those before it have built, to the
end or to the first one that is refused (`ReadsMembers`, `endsAs_members`).
-/

namespace ModuleBridge.Json

open Text.Utf8 (encode)

/-! ## Blanks and ends -/

/-- Nothing but blanks. -/
def Blank (bs : List UInt8) : Prop := ∀ b ∈ bs, Reader.isSpace b = true

/-- May the byte go on with a number? -/
def continuesNumber (b : UInt8) : Bool :=
  isDigit b || b = 0x2E || b = 0x65 || b = 0x45

/-- A number ends where the bytes begin. -/
def Ends (rest : List UInt8) : Prop := ∀ b ∈ rest.head?, continuesNumber b = false

/-- Can a text begin with the byte that stands for an item? -/
def begins (b : UInt8) : Bool :=
  !Reader.isSpace b && b ≠ 0x5D

section
variable {front rest : List UInt8} {b : UInt8}

theorem Blank.nil : Blank [] := nofun

theorem Ends.nil : Ends [] := nofun

/-- A number ends in front of a byte that does not go on with it. -/
theorem Ends.cons (h : continuesNumber b = false) : Ends (b :: rest) := by
  rintro b' ⟨⟩
  exact h

/-- A blank does not go on with a number. -/
theorem continuesNumber_of_isSpace (h : Reader.isSpace b = true) : continuesNumber b = false := by
  simp only [Reader.isSpace, Bool.or_eq_true, decide_eq_true_eq] at h
  obtain ((rfl | rfl) | rfl) | rfl := h <;> rfl

/-- Blank characters are blank bytes. -/
theorem IsGap.blank {cs : List Char} (h : IsGap cs) : Blank (encode cs) := by
  intro b hb
  obtain ⟨c, hc, hbc⟩ := List.mem_flatMap.1 hb
  have hblank := h c hc
  simp only [List.mem_cons, List.not_mem_nil, or_false] at hblank
  rcases hblank with rfl | rfl | rfl | rfl
  all_goals
    rw [Text.Utf8.utf8EncodeChar_ascii (by decide), List.mem_singleton] at hbc
    exact hbc ▸ rfl

/-- A number ends before blanks if it ends before what follows them. -/
theorem Ends.blank (hb : Blank front) (h : Ends rest) : Ends (front ++ rest) := by
  cases front with
  | nil => exact h
  | cons b bs => exact .cons (continuesNumber_of_isSpace (hb b List.mem_cons_self))

/-- Blanks are dropped up to the first byte that is none. -/
theorem Blank.dropWhile (hb : Blank front) (h : Reader.isSpace b = false) :
    (front ++ b :: rest).dropWhile Reader.isSpace = b :: rest := by
  rw [List.dropWhile_append_of_pos hb, List.dropWhile_cons_of_neg (by simp [h])]

end

namespace Reader

/-! ## Steps of a reader -/

section
variable {α β : Type} {r : Reader α} {text blank rest : List UInt8} {x : α} {b : UInt8}

/-- After what a reader gives comes what is done with it. -/
theorem bind_ok {f : α → Reader β} (h : r text = .ok (x, rest)) : (r >>= f) text = f x rest := by
  show StateT.bind r f text = _
  rw [StateT.bind, h]
  rfl

/-- What goes wrong first is wrong with all. -/
theorem bind_error {f : α → Reader β} {fault : Fault} (h : r text = .error fault) :
    (r >>= f) text = .error fault := by
  show StateT.bind r f text = _
  rw [StateT.bind, h]
  rfl

/-- The next byte is the first one behind the blanks, and it is not taken. -/
theorem peek_eq (hb : Blank blank) (h : isSpace b = false) :
    peek (blank ++ b :: rest) = .ok (some b, b :: rest) := by
  rw [peek, hb.dropWhile h]
  rfl

/-- Skipping takes one byte. -/
theorem skip_cons : skip (b :: rest) = .ok ((), rest) := rfl

/-- A colon is taken with the blanks in front of it. -/
theorem colon_eq (hb : Blank blank) : colon (blank ++ 0x3A :: rest) = .ok ((), rest) :=
  bind_ok (peek_eq hb rfl)

/-- The letters of a word are taken. -/
theorem word_append (letters rest : List UInt8) :
    word letters (letters ++ rest) = .ok ((), rest) := by
  induction letters with
  | nil => rfl
  | cons w ws ih => rw [List.cons_append, word, if_pos rfl, ih]

end

/-- The reader passes over blanks, takes just the text and gives the value. -/
structure Takes {α : Type} (r : Reader α) (text : List UInt8) (x : α) : Prop where
  starts : ∃ b bs, text = b :: bs ∧ begins b = true
  reads : ∀ blank rest, Blank blank → Ends rest → r (blank ++ (text ++ rest)) = .ok (x, rest)

/-! ## Items -/

/-- The texts after the first one, each with a comma and blanks in front of it. -/
def others (before : List UInt8) (texts : List (List UInt8)) : List UInt8 :=
  texts.flatMap fun text => 0x2C :: (before ++ text)

/-- Texts with commas between them. -/
def listed : List (List UInt8) → List UInt8
  | [] => []
  | text :: texts => text ++ others [] texts

/-- What stands between the brackets around some texts. -/
def inside (before after : List UInt8) : List (List UInt8) → List UInt8
  | [] => []
  | text :: texts => before ++ text ++ others before texts ++ after

section
variable {α σ : Type} {item : Reader α} {member : String → σ → Reader σ} {slots slots' : σ}
  {lead before after rest text : List UInt8} {texts : List (List UInt8)} {xs : List α}

/-- The other items of a container: each follows its comma. -/
theorem others_cons (before text : List UInt8) (texts : List (List UInt8)) :
    others before (text :: texts) = 0x2C :: (before ++ text) ++ others before texts := rfl

/-- What stands before each text may as well be a part of it. -/
theorem others_eq (before : List UInt8) (texts : List (List UInt8)) :
    others before texts = others [] (texts.map (before ++ ·)) := by
  rw [others, others, List.flatMap_map]
  rfl

/-- There are no more items than bytes. -/
theorem length_le_others (before : List UInt8) (texts : List (List UInt8)) :
    texts.length ≤ (others before texts).length := by
  induction texts with
  | nil => exact Nat.zero_le _
  | cons text texts ih =>
    rw [others_cons]
    simp
    omega

/-- A number ends before a comma, a blank and a closing bracket. -/
theorem ends_others (ha : Blank after) {closing : UInt8} (hc : continuesNumber closing = false)
    (before : List UInt8) (texts : List (List UInt8)) (rest : List UInt8) :
    Ends (others before texts ++ (after ++ closing :: rest)) := by
  cases texts with
  | nil =>
    show Ends (after ++ closing :: rest)
    exact .blank ha (.cons hc)
  | cons text texts => exact .cons rfl

/-- An item begins with a byte that is neither blank nor the end of the array. -/
theorem begins_iff {b : UInt8} : begins b = true ↔ isSpace b = false ∧ b ≠ 0x5D := by
  simp [begins]

/-- There is a first item if a byte comes with which an item begins. -/
theorem hasItem_first {b : UInt8} (hb : Blank before) (h : begins b = true) :
    hasItem true (before ++ b :: rest) = .ok (true, b :: rest) := by
  obtain ⟨hs, hne⟩ := begins_iff.1 h
  refine (bind_ok (peek_eq hb hs)).trans ?_
  by_cases hcomma : b = 0x2C
  · subst hcomma
    rfl
  · simp only
    rfl

/-- There is another item behind a comma. -/
theorem hasItem_comma {b : UInt8} (hb : Blank before) (h : begins b = true) :
    hasItem false (0x2C :: (before ++ b :: rest)) = .ok (true, b :: rest) := by
  obtain ⟨hs, hne⟩ := begins_iff.1 h
  refine (bind_ok (peek_eq .nil rfl)).trans ?_
  refine (bind_ok skip_cons).trans ?_
  refine (bind_ok (peek_eq hb hs)).trans ?_
  simp only
  rfl

/-- There is no further item in front of the closing bracket. -/
theorem hasItem_end (ha : Blank after) (first : Bool) :
    hasItem first (after ++ 0x5D :: rest) = .ok (false, 0x5D :: rest) :=
  bind_ok (peek_eq ha rfl)

/-- The items after the first one are taken. -/
theorem itemsUpTo_others (h : List.Forall₂ item.Takes texts xs) (hb : Blank before)
    (ha : Blank after) {count : Nat} (hc : texts.length < count) :
    itemsUpTo item count false (others before texts ++ (after ++ 0x5D :: rest)) =
      .ok (xs, 0x5D :: rest) := by
  obtain ⟨count, rfl⟩ : ∃ n, count = n + 1 := ⟨count - 1, by omega⟩
  induction h generalizing count with
  | nil => exact bind_ok (hasItem_end ha false)
  | @cons text x texts xs ht _ ih =>
    obtain ⟨b, bs, rfl, hbegins⟩ := ht.starts
    obtain ⟨count, rfl⟩ : ∃ n, count = n + 1 := ⟨count - 1, by simp at hc; omega⟩
    have hends : continuesNumber 0x5D = false := rfl
    have hitem := ht.reads [] _ .nil (ends_others ha hends before texts rest)
    rw [others_cons]
    simp only [List.append_assoc, List.cons_append, List.nil_append] at hitem ⊢
    refine (bind_ok (hasItem_comma hb hbegins)).trans ?_
    refine (bind_ok hitem).trans ?_
    exact bind_ok (ih count (by simpa using hc))

/-- The items between brackets are taken, with blanks in front of the first one. -/
theorem items_lead {x : α} (ht : item.Takes text x) (h : List.Forall₂ item.Takes texts xs)
    (hl : Blank lead) (hb : Blank before) (ha : Blank after) :
    items item (lead ++ (text ++ (others before texts ++ (after ++ 0x5D :: rest)))) =
      .ok (x :: xs, 0x5D :: rest) := by
  obtain ⟨b, bs, rfl, hbegins⟩ := ht.starts
  have hends : continuesNumber 0x5D = false := rfl
  have hitem := ht.reads [] _ .nil (ends_others ha hends before texts rest)
  have hlength := length_le_others before texts
  rw [items]
  simp only [List.cons_append, List.nil_append] at hitem ⊢
  refine (bind_ok (hasItem_first hl hbegins)).trans ?_
  refine (bind_ok hitem).trans ?_
  refine bind_ok (itemsUpTo_others h hb ha ?_)
  simp
  omega

/-- The items of an array are taken one by one up to its closing bracket. -/
theorem items_inside (h : List.Forall₂ item.Takes texts xs) (hb : Blank before) (ha : Blank after) :
    items item (inside before after texts ++ 0x5D :: rest) = .ok (xs, 0x5D :: rest) := by
  cases h with
  | nil => exact bind_ok (hasItem_end .nil true)
  | cons ht hrest =>
    rw [inside]
    simp only [List.append_assoc]
    exact items_lead ht hrest hb hb ha

/-! ## Members -/

/-- The reader finds a fault in the text, whatever comes after it. -/
def Refuses {α : Type} (r : Reader α) (text : List UInt8) (cause : Cause) : Prop :=
  ∀ blank rest, Blank blank → ∃ unread, r (blank ++ (text ++ rest)) = .error ⟨cause, unread⟩

/-- What is read is a value, with the rest after it, or nothing for a cause. -/
def EndsAs {α : Type} (result : Except Fault (α × List UInt8)) (outcome : Except Cause α)
    (rest : List UInt8) : Prop :=
  match outcome with
  | .ok x => result = .ok (x, rest)
  | .error cause => ∃ unread, result = .error ⟨cause, unread⟩

/-- The bytes are a member: its key as a string in some spelling, and a text after the key, with
blanks before, between and after them. -/
inductive IsMember (key : String) (text : List UInt8) : List UInt8 → Prop
  | intro {before spelled gap after : List UInt8} (hbefore : Blank before) (hgap : Blank gap)
    (hafter : Blank after) (hkey : ∀ rest, string (spelled ++ 0x22 :: rest) = .ok (key, rest)) :
    IsMember key text (before ++ 0x22 :: (spelled ++ 0x22 :: (gap ++ (text ++ after))))

/-- How members are read one after the other, each with what those before it have built: to the end,
or to the first one that is refused. -/
inductive ReadsMembers {σ : Type} (member : String → σ → Reader σ) :
    List (List UInt8) → σ → Except Cause σ → Prop
  | done (built : σ) : ReadsMembers member [] built (.ok built)
  | next {key : String} {text bytes : List UInt8} {texts : List (List UInt8)} {built built' : σ}
    {outcome : Except Cause σ} (hm : IsMember key text bytes)
    (first : (member key built).Takes text built')
    (others : ReadsMembers member texts built' outcome) :
    ReadsMembers member (bytes :: texts) built outcome
  | stop {key : String} {text bytes : List UInt8} {texts : List (List UInt8)} {built : σ}
    {cause : Cause} (hm : IsMember key text bytes) (first : (member key built).Refuses text cause) :
    ReadsMembers member (bytes :: texts) built (.error cause)

/-- The text of a member: its key as a string, and what follows the key. -/
def memberText (m : String × List UInt8) : List UInt8 :=
  0x22 :: (encode (m.1.toList.flatMap escaped) ++ 0x22 :: m.2)

/-- What follows the keys is taken, each with what the members before it have built. -/
inductive TakesMembers {σ : Type} (member : String → σ → Reader σ) :
    List (String × List UInt8) → σ → σ → Prop
  | nil (built : σ) : TakesMembers member [] built built
  | cons {key : String} {text : List UInt8} {rest : List (String × List UInt8)}
    {built built' built'' : σ} (first : (member key built).Takes text built')
    (others : TakesMembers member rest built' built'') :
    TakesMembers member ((key, text) :: rest) built built''

/-- There is a first member if a quote comes. -/
theorem hasMember_first (hb : Blank before) :
    hasMember true (before ++ 0x22 :: rest) = .ok (true, rest) :=
  bind_ok (peek_eq hb rfl)

/-- There is another member behind a comma. -/
theorem hasMember_comma (hl : Blank lead) (hb : Blank before) :
    hasMember false (lead ++ 0x2C :: (before ++ 0x22 :: rest)) = .ok (true, rest) := by
  refine (bind_ok (peek_eq hl rfl)).trans ?_
  refine (bind_ok skip_cons).trans ?_
  exact bind_ok (peek_eq hb rfl)

/-- There is no further member in front of the closing brace. -/
theorem hasMember_end (ha : Blank after) (first : Bool) :
    hasMember first (after ++ 0x7D :: rest) = .ok (false, 0x7D :: rest) :=
  bind_ok (peek_eq ha rfl)

/-- A key is read, and then what follows it. -/
theorem membersUpTo_key {first : Bool} {count : Nat} {built : σ} {key : String}
    {front spelled more : List UInt8}
    (h : hasMember first front = .ok (true, spelled ++ 0x22 :: more))
    (hkey : ∀ rest, string (spelled ++ 0x22 :: rest) = .ok (key, rest)) :
    membersUpTo string member (count + 1) first built front =
      (member key built >>= membersUpTo string member count false) more :=
  (bind_ok h).trans (bind_ok (hkey more))

/-- What a member that is read leaves goes on being read, and what is wrong with one that is refused
is wrong with all. -/
theorem endsAs_bind {key : String} {built : σ} {outcome : Except Cause σ} {f : σ → Reader σ}
    {gap more : List UInt8} (hgap : Blank gap) (hmore : Ends more)
    (h : (∃ built', (member key built).Takes text built' ∧ EndsAs (f built' more) outcome rest) ∨
      ∃ cause, (member key built).Refuses text cause ∧ outcome = .error cause) :
    EndsAs ((member key built >>= f) (gap ++ (text ++ more))) outcome rest := by
  rcases h with ⟨built', htakes, h⟩ | ⟨cause, hrefuses, rfl⟩
  · rwa [bind_ok (htakes.reads gap more hgap hmore)]
  · obtain ⟨unread, hread⟩ := hrefuses gap more hgap
    exact ⟨unread, bind_error hread⟩

/-- Reading members begins with the first of them, which is taken or refused. -/
theorem ReadsMembers.cons_inv {bytes : List UInt8} {built : σ} {outcome : Except Cause σ}
    (h : ReadsMembers member (bytes :: texts) built outcome) :
    ∃ key text, IsMember key text bytes ∧
      ((∃ built', (member key built).Takes text built' ∧
        ReadsMembers member texts built' outcome) ∨
      ∃ cause, (member key built).Refuses text cause ∧ outcome = .error cause) := by
  cases h with
  | next hm first others => exact ⟨_, _, hm, .inl ⟨_, first, others⟩⟩
  | stop hm first => exact ⟨_, _, hm, .inr ⟨_, first, rfl⟩⟩

/-- The members after the first one are read to the end or to one that is refused. -/
theorem endsAs_membersUpTo {built : σ} {outcome : Except Cause σ}
    (h : ReadsMembers member texts built outcome) (hl : Blank lead) (ha : Blank after) {count : Nat}
    (hc : texts.length < count) :
    EndsAs (membersUpTo string member count false built
      (lead ++ (others [] texts ++ (after ++ 0x7D :: rest)))) outcome (0x7D :: rest) := by
  obtain ⟨count, rfl⟩ : ∃ n, count = n + 1 := ⟨count - 1, by omega⟩
  have hends : continuesNumber 0x7D = false := rfl
  induction texts generalizing lead built count with
  | nil =>
    cases h with
    | done =>
      have hblank : Blank (lead ++ after) := List.forall_mem_append.2 ⟨hl, ha⟩
      show membersUpTo string member (count + 1) false built (lead ++ (after ++ _)) = _
      rw [← List.append_assoc]
      exact bind_ok (hasMember_end hblank false)
  | cons bytes texts ih =>
    obtain ⟨count, rfl⟩ : ∃ n, count = n + 1 := ⟨count - 1, by simp at hc; omega⟩
    obtain ⟨key, text, hm, hread⟩ := h.cons_inv
    cases hm with
    | @intro before spelled gap behind hbefore hgap hbehind hkey =>
      rw [others_cons]
      simp only [List.append_assoc, List.cons_append, List.nil_append]
      rw [membersUpTo_key (hasMember_comma hl hbefore) hkey]
      refine endsAs_bind hgap (.blank hbehind (ends_others ha hends [] texts rest)) ?_
      refine hread.imp_left ?_
      rintro ⟨built', first, others⟩
      exact ⟨built', first, ih others hbehind count (by simpa using hc)⟩

/-- The members between brackets are read to the end or to one that is refused. -/
theorem endsAs_members {built : σ} {outcome : Except Cause σ}
    (h : ReadsMembers member texts built outcome) (ha : Blank after) :
    EndsAs (members string member built (listed texts ++ (after ++ 0x7D :: rest))) outcome
      (0x7D :: rest) := by
  have hends : continuesNumber 0x7D = false := rfl
  cases texts with
  | nil =>
    cases h with
    | done => exact bind_ok (hasMember_end ha true)
  | cons bytes texts =>
    obtain ⟨key, text, hm, hread⟩ := h.cons_inv
    have hlength := length_le_others [] texts
    cases hm with
    | @intro before spelled gap behind hbefore hgap hbehind hkey =>
      rw [listed, members]
      simp only [List.append_assoc, List.cons_append]
      rw [membersUpTo_key (hasMember_first hbefore) hkey]
      refine endsAs_bind hgap (.blank hbehind (ends_others ha hends [] texts rest)) ?_
      refine hread.imp_left ?_
      rintro ⟨built', first, others⟩
      refine ⟨built', first, endsAs_membersUpTo others hbehind ha ?_⟩
      simp only [List.length_append, List.length_cons]
      omega

/-- A member in its own spelling is one. -/
theorem isMember_memberText {key : String} (hb : Blank before) :
    IsMember key text (before ++ memberText (key, text)) := by
  have hmember : IsMember key text (before ++ 0x22 :: (_ ++ 0x22 :: ([] ++ (text ++ [])))) :=
    .intro hb .nil .nil (string_escaped key)
  rwa [List.nil_append, List.append_nil] at hmember

/-- Members whose keys are written in one way are read like others. -/
theorem TakesMembers.reads {ms : List (String × List UInt8)}
    (h : TakesMembers member ms slots slots') (hb : Blank before) :
    ReadsMembers member ((ms.map memberText).map (before ++ ·)) slots (.ok slots') := by
  induction h with
  | nil built => exact .done built
  | cons first _ ih => exact .next (isMember_memberText hb) first ih

/-- The members between brackets are taken, with blanks in front of the first one. -/
theorem members_lead {key : String} {ms : List (String × List UInt8)} {built : σ}
    (ht : (member key slots).Takes text built) (h : TakesMembers member ms built slots')
    (hl : Blank lead) (hb : Blank before) (ha : Blank after) :
    members string member slots (lead ++ (memberText (key, text) ++
        (others before (ms.map memberText) ++ (after ++ 0x7D :: rest)))) =
      .ok (slots', 0x7D :: rest) := by
  have hread : EndsAs (members string member slots
      (listed ((lead ++ memberText (key, text)) :: _) ++ (after ++ 0x7D :: rest))) (.ok slots') _ :=
    endsAs_members (.next (isMember_memberText hl) ht (h.reads hb)) ha
  rw [listed, ← others_eq] at hread
  simp only [List.append_assoc] at hread
  exact hread

/-- The members of an object are taken one by one up to its closing brace. -/
theorem members_inside {ms : List (String × List UInt8)} (h : TakesMembers member ms slots slots')
    (hb : Blank before) (ha : Blank after) :
    members string member slots (inside before after (ms.map memberText) ++ 0x7D :: rest) =
      .ok (slots', 0x7D :: rest) := by
  cases h with
  | nil => exact bind_ok (hasMember_end .nil true)
  | cons ht hrest =>
    rw [List.map_cons, inside]
    simp only [List.append_assoc]
    exact members_lead ht hrest hb hb ha

end

end Reader

end ModuleBridge.Json
