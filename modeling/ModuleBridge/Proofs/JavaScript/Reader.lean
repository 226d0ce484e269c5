import ModuleBridge.Proofs.JavaScript.Lexer
import ModuleBridge.Text.Lines

/-!
# Reading tokens

Readers take tokens off the front of a list and give what they have read with the tokens that are
left. What stands between the parts that vary is given as a snippet of code (`lex`). Beside each
thing that can be read stand its tokens, and reading them gives the thing back whatever follows, so
the readers lose nothing and confuse nothing.
-/

namespace ModuleBridge.JavaScript

/-- The tokens of a snippet of code. -/
def lex (snippet : String) : List Token := (tokens? snippet).getD []

/-- Takes the given tokens. -/
def expect : List Token → List Token → Option (List Token)
  | [], ts => some ts
  | e :: es, t :: ts => if e = t then expect es ts else none
  | _ :: _, [] => none

/-- Takes a word. -/
def word : List Token → Option (String × List Token)
  | .word name :: ts => some (name, ts)
  | _ => none

/-- Takes a string literal. -/
def literal : List Token → Option (String × List Token)
  | .literal value :: ts => some (value, ts)
  | _ => none

/-- Takes a template literal. -/
def template : List Token → Option (List Part × List Token)
  | .template parts :: ts => some (parts, ts)
  | _ => none

/-- The word that a number is. -/
def numeral (n : Nat) : String := String.ofList (Decimal.natDigits n)

/-- Takes a number. -/
def number : List Token → Option (Nat × List Token)
  | .word name :: ts =>
    let n := Nat.ofDigitChars 10 name.toList 0
    if numeral n = name then some (n, ts) else none
  | _ => none

/-- Takes as many items as there are, up to a limit. -/
def many (item : List Token → Option (α × List Token)) : Nat → List Token → List α × List Token
  | 0, ts => ([], ts)
  | limit + 1, ts =>
    match item ts with
    | none => ([], ts)
    | some (x, ts) =>
      let (xs, ts) := many item limit ts
      (x :: xs, ts)

/-- Takes items with commas between them, up to a limit. -/
def listed (item : List Token → Option (α × List Token)) :
    Nat → List Token → Option (List α × List Token)
  | 0, _ => none
  | limit + 1, ts => do
    let (x, ts) ← item ts
    match ts with
    | .mark ',' :: ts =>
      let (xs, ts) ← listed item limit ts
      return (x :: xs, ts)
    | _ => return ([x], ts)

/-- Tokens with commas between them. -/
def commas : List (List Token) → List Token
  | [] => []
  | [ts] => ts
  | ts :: rest => ts ++ .mark ',' :: commas rest

/-- Do the tokens begin with what can follow an item of a list? -/
def Stops : List Token → Prop
  | .mark c :: _ => c = ',' ∨ c = '}' ∨ c = ')'
  | _ => False

/-- A member stops in front of a comma. -/
theorem Stops.comma (ts : List Token) : Stops (.mark ',' :: ts) := Or.inl rfl

/-- A list does not go on after any mark but a comma. -/
theorem mark_ne_comma {c : Char} {ts us : List Token} (h : c ≠ ',') :
    Token.mark c :: ts ≠ .mark ',' :: us :=
  fun he => h (Token.mark.inj (List.cons.inj he).1)

section
variable {item : List Token → Option (α × List Token)} {print : α → List Token} {xs : List α}
  {ts : List Token} {limit : Nat}

@[simp] theorem expect_append (es ts : List Token) : expect es (es ++ ts) = some ts := by
  induction es with
  | nil => rfl
  | cons e es ih => rw [List.cons_append, expect, if_pos rfl, ih]

@[simp] theorem word_cons (name : String) (ts : List Token) :
    word (.word name :: ts) = some (name, ts) := rfl

@[simp] theorem literal_cons (value : String) (ts : List Token) :
    literal (.literal value :: ts) = some (value, ts) := rfl

@[simp] theorem template_cons (parts : List Part) (ts : List Token) :
    template (.template parts :: ts) = some (parts, ts) := rfl

@[simp] theorem number_cons (n : Nat) (ts : List Token) :
    number (.word (numeral n) :: ts) = some (n, ts) := by
  have hn : Nat.ofDigitChars 10 (numeral n).toList 0 = n := by
    rw [numeral, String.toList_ofList]
    exact Nat.ofDigitChars_ten_toDigits
  simp only [number, hn, if_true]

/-- All items are read, if each is read whatever follows it and what follows them is no item. -/
theorem many_append (hitem : ∀ x ∈ xs, ∀ ts, item (print x ++ ts) = some (x, ts))
    (hend : item ts = none) (hlimit : xs.length < limit) :
    many item limit (xs.flatMap print ++ ts) = (xs, ts) := by
  induction xs generalizing limit with
  | nil =>
    cases limit with
    | zero => cases hlimit
    | succ limit => simp [many, hend]
  | cons x xs ih =>
    cases limit with
    | zero => cases hlimit
    | succ limit =>
      have hrest := ih (fun y hy => hitem y (.tail _ hy)) (Nat.lt_of_succ_lt_succ hlimit)
      rw [List.flatMap_cons, List.append_assoc, many, hitem x List.mem_cons_self]
      simp only [hrest]

/-- Items that have tokens are no more than their tokens. -/
theorem length_le_flatMap (hprint : ∀ x ∈ xs, print x ≠ []) :
    xs.length ≤ (xs.flatMap print).length := by
  induction xs with
  | nil => exact Nat.le_refl _
  | cons x xs ih =>
    have hx : 0 < (print x).length := List.length_pos_iff.2 (hprint x List.mem_cons_self)
    have hrest := ih fun y hy => hprint y (.tail _ hy)
    rw [List.flatMap_cons, List.length_append, List.length_cons]
    omega

/-- No more items than tokens are ever read, so the number of the tokens is no limit. -/
theorem many_flatMap (hitem : ∀ x ∈ xs, ∀ ts, item (print x ++ ts) = some (x, ts))
    (hprint : ∀ x ∈ xs, print x ≠ []) (hend : item ts = none) (hne : ts ≠ []) :
    many item (xs.flatMap print ++ ts).length (xs.flatMap print ++ ts) = (xs, ts) := by
  refine many_append hitem hend ?_
  have hlength := length_le_flatMap hprint
  have hpos := List.length_pos_iff.2 hne
  rw [List.length_append]
  omega

/-- All items with commas between them are read, if each is read in front of a comma and of what
follows them. -/
theorem listed_append (hitem : ∀ x ∈ xs, ∀ ts, Stops ts → item (print x ++ ts) = some (x, ts))
    (hne : xs ≠ []) (hstops : Stops ts) (hend : ∀ us, ts ≠ .mark ',' :: us)
    (hlimit : xs.length ≤ limit) :
    listed item limit (commas (xs.map print) ++ ts) = some (xs, ts) := by
  induction xs generalizing limit with
  | nil => exact absurd rfl hne
  | cons x xs ih =>
    cases limit with
    | zero => cases hlimit
    | succ limit =>
      have hx := hitem x List.mem_cons_self
      cases xs with
      | nil =>
        rw [List.map_cons, List.map_nil, commas, listed, hx ts hstops]
        simp only [Option.bind_eq_bind, Option.bind_some]
        rfl
      | cons y ys =>
        have hrest := ih (fun z hz => hitem z (.tail _ hz)) (List.cons_ne_nil _ _)
          (Nat.le_of_succ_le_succ hlimit)
        rw [List.map_cons, List.map_cons, commas, List.append_assoc, listed, List.cons_append,
          hx _ (.comma _), ← List.map_cons]
        · simp only [Option.bind_eq_bind, Option.bind_some, hrest]
          rfl
        · exact List.cons_ne_nil _ _

/-- There are at least as many tokens as items between commas. -/
theorem length_le_commas (hprint : ∀ x ∈ xs, print x ≠ []) :
    xs.length ≤ (commas (xs.map print)).length := by
  induction xs with
  | nil => exact Nat.le_refl _
  | cons x xs ih =>
    have hx : 0 < (print x).length := List.length_pos_iff.2 (hprint x List.mem_cons_self)
    have hrest := ih fun y hy => hprint y (.tail _ hy)
    cases xs with
    | nil => exact hx
    | cons y ys =>
      simp only [List.map_cons, commas, List.length_append, List.length_cons] at hrest ⊢
      omega

/-- The number of the tokens is no limit for items with commas between them either. -/
theorem listed_commas (hitem : ∀ x ∈ xs, ∀ ts, Stops ts → item (print x ++ ts) = some (x, ts))
    (hprint : ∀ x ∈ xs, print x ≠ []) (hne : xs ≠ []) (hstops : Stops ts)
    (hend : ∀ us, ts ≠ .mark ',' :: us) :
    listed item (commas (xs.map print) ++ ts).length (commas (xs.map print) ++ ts) =
      some (xs, ts) := by
  refine listed_append hitem hne hstops hend ?_
  have hlength := length_le_commas hprint
  rw [List.length_append]
  omega

end

/-! ## Texts in front of others -/

/-- The text gives the tokens in front of all that begins with no character of a word. -/
def ReadsBefore (text : String) (ts : List Token) : Prop :=
  ∀ ⦃cs us mode⦄, cs.head?.map isWordChar = some false → Reads .blank cs us mode →
    Reads .blank (text.toList ++ cs) (ts ++ us) mode

section
variable {text text' separator key : String} {ts ts' : List Token} {xs : List α}
  {texts : α → String} {print : α → List Token}

/-- What is read on its own is read before a comma, too. -/
theorem ReadsBefore.of_reads (h : Reads .blank text.toList ts .blank) : ReadsBefore text ts :=
  fun _ _ _ _ hcs => Reads.append h hcs

/-- A word is read as itself. -/
theorem ReadsBefore.word (h : IsWord text.toList) : ReadsBefore text [.word text] :=
  fun _ _ _ hhead hcs => Reads.word h hhead hcs

/-- A key and a value with a colon between them. -/
theorem ReadsBefore.member (hkey : IsWord key.toList) (h : ReadsBefore text ts) :
    ReadsBefore (key ++ ": " ++ text) (.word key :: .mark ':' :: ts) := by
  intro cs us mode hhead hcs
  have hcolon : Reads .blank ": ".toList [.mark ':'] .blank := rfl
  have hall := Reads.word hkey rfl (Reads.append hcolon (h hhead hcs))
  rw [String.toList_append, String.toList_append, List.append_assoc, List.append_assoc]
  exact hall

/-- Texts with separators between them give their tokens with commas between them. -/
theorem ReadsBefore.joinWith (hhead : separator.toList.head?.map isWordChar = some false)
    (hseparator : Reads .blank separator.toList [.mark ','] .blank)
    (h : ∀ x ∈ xs, ReadsBefore (texts x) (print x)) :
    ReadsBefore (Text.joinWith separator (xs.map texts)) (commas (xs.map print)) := by
  induction xs with
  | nil => exact fun _ _ _ _ hcs => hcs
  | cons x xs ih =>
    have hx := h x List.mem_cons_self
    cases xs with
    | nil => exact hx
    | cons y ys =>
      intro cs us mode hend hcs
      have hrest := ih (fun z hz => h z (.tail _ hz)) hend hcs
      have hall := hx (head?_append_of_not_isWordChar hhead _) (Reads.append hseparator hrest)
      simpa [Text.joinWith, commas] using hall

/-- Texts of two kinds in a row, with separators between all of them. -/
theorem ReadsBefore.joinWith_append {ys : List β} {texts' : β → String} {print' : β → List Token}
    (hhead : separator.toList.head?.map isWordChar = some false)
    (hseparator : Reads .blank separator.toList [.mark ','] .blank)
    (h : ∀ x ∈ xs, ReadsBefore (texts x) (print x))
    (h' : ∀ y ∈ ys, ReadsBefore (texts' y) (print' y)) :
    ReadsBefore (Text.joinWith separator (xs.map texts ++ ys.map texts'))
      (commas (xs.map print ++ ys.map print')) := by
  have hall : ∀ z ∈ xs.map Sum.inl ++ ys.map Sum.inr,
      ReadsBefore (Sum.elim texts texts' z) (Sum.elim print print' z) := by
    intro z hz
    rw [List.mem_append, List.mem_map, List.mem_map] at hz
    rcases hz with ⟨x, hx, rfl⟩ | ⟨y, hy, rfl⟩
    · exact h x hx
    · exact h' y hy
  have hjoin := ReadsBefore.joinWith hhead hseparator hall
  rw [List.map_append, List.map_map, List.map_map, List.map_append, List.map_map,
    List.map_map] at hjoin
  exact hjoin

end

/-! ## Members -/

/-- A member of an object or of its type: what stands after the colon, or the key itself. -/
structure Member where
  key : String
  value : List Token
  deriving DecidableEq, Repr

/-- Can the token stand in a value of a member? -/
def isValueToken : Token → Bool
  | .word _ => true
  | .mark c => c = '<' || c = '>'
  | _ => false

/-- Takes a member. -/
def readMember : List Token → Option (Member × List Token)
  | .word key :: .mark ':' :: ts =>
    some (⟨key, ts.takeWhile isValueToken⟩, ts.dropWhile isValueToken)
  | .word key :: ts => some (⟨key, [.word key]⟩, ts)
  | _ => none

namespace Member

/-- The tokens of a member with its value. -/
def tokens (m : Member) : List Token := .word m.key :: .mark ':' :: m.value

/-- The tokens of a member that need not give its value. -/
def shortTokens (m : Member) : List Token :=
  if m.value = [.word m.key] then [.word m.key] else m.tokens

/-- A member has tokens. -/
theorem tokens_ne_nil (m : Member) : m.tokens ≠ [] := List.cons_ne_nil _ _

/-- A member has tokens in its short form, too. -/
theorem shortTokens_ne_nil (m : Member) : m.shortTokens ≠ [] := by
  unfold shortTokens
  split <;> exact List.cons_ne_nil _ _

/-- A member is read back from its tokens. -/
theorem readMember_tokens {m : Member} {ts : List Token}
    (hvalue : ∀ t ∈ m.value, isValueToken t = true) (hts : Stops ts) :
    readMember (m.tokens ++ ts) = some (m, ts) := by
  have hstop : ts.takeWhile isValueToken = [] ∧ ts.dropWhile isValueToken = ts := by
    match ts, hts with
    | .mark c :: ts, hc =>
      have hv : isValueToken (.mark c) = false := by
        rcases hc with rfl | rfl | rfl <;> rfl
      exact ⟨List.takeWhile_cons_of_neg (by simp [hv]), List.dropWhile_cons_of_neg (by simp [hv])⟩
  rw [tokens, List.cons_append, List.cons_append, readMember,
    List.takeWhile_append_of_pos hvalue, List.dropWhile_append_of_pos hvalue, hstop.1, hstop.2,
    List.append_nil]

/-- A member is read back from its short form. -/
theorem readMember_shortTokens {m : Member} {ts : List Token}
    (hvalue : ∀ t ∈ m.value, isValueToken t = true) (hts : Stops ts) :
    readMember (m.shortTokens ++ ts) = some (m, ts) := by
  rw [shortTokens]
  split
  · next hshort =>
    match ts, hts with
    | .mark c :: ts, hc =>
      have hcolon : c ≠ ':' := by
        rcases hc with rfl | rfl | rfl <;> decide
      rw [List.singleton_append, readMember, ← hshort]
      intro us he
      cases he
      exact hcolon rfl
  · exact readMember_tokens hvalue hts

end Member

end ModuleBridge.JavaScript
