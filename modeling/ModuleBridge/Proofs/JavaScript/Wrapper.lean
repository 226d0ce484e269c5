import ModuleBridge.Proofs.JavaScript.Reader

/-!
# Wrappers

A wrapper is a function that is bound to a name and takes any number of arguments. Its body is a
list of statements, which are read one by one and run one by one: so what a wrapper does before
another thing is a fact about its run and not about how it is read. The holes of a template literal
are read as code too and stand for the number of the arguments or for one of them, as text.
-/

namespace ModuleBridge.JavaScript

/-! ## Reading -/

/-- A statement in the body of a wrapper. -/
inductive Statement
  /-- Throws an error unless the wrapper is given so many arguments. -/
  | guard (count : Nat) (message : List Part)
  /-- Builds the script. -/
  | script (parts : List Part)
  /-- Sends the script. -/
  | send
  deriving DecidableEq, Repr

/-- The tokens of a statement. -/
def Statement.tokens : Statement → List Token
  | .guard count message =>
    .word "if" :: (lex "(args.length !==" ++ .word (numeral count) ::
      (lex ") \x7b throw new Error(" ++ .template message :: lex "); \x7d"))
  | .script parts => .word "const" :: (lex "script =" ++ .template parts :: lex ";")
  | .send => .word "return" :: lex "client.executeScript(script);"

/-- Takes a statement. -/
def readStatement : List Token → Option (Statement × List Token)
  | .word "if" :: ts => do
    let ts ← expect (lex "(args.length !==") ts
    let (count, ts) ← number ts
    let ts ← expect (lex ") \x7b throw new Error(") ts
    let (message, ts) ← template ts
    let ts ← expect (lex "); \x7d") ts
    return (.guard count message, ts)
  | .word "const" :: ts => do
    let ts ← expect (lex "script =") ts
    let (parts, ts) ← template ts
    let ts ← expect (lex ";") ts
    return (.script parts, ts)
  | .word "return" :: ts => do
    let ts ← expect (lex "client.executeScript(script);") ts
    return (.send, ts)
  | _ => none

/-- A wrapper. -/
structure Block where
  /-- The name it is bound to. -/
  binding : String
  body : List Statement
  deriving DecidableEq, Repr

/-- The tokens of a wrapper. -/
def Block.tokens (b : Block) : List Token :=
  .word "const" :: .word b.binding ::
    (lex "= (...args) => \x7b" ++ (b.body.flatMap Statement.tokens ++ lex "\x7d;"))

/-- Takes a wrapper. -/
def readBlock : List Token → Option (Block × List Token)
  | .word "const" :: ts => do
    let (binding, ts) ← word ts
    let ts ← expect (lex "= (...args) => \x7b") ts
    let (body, ts) := many readStatement ts.length ts
    let ts ← expect (lex "\x7d;") ts
    return (⟨binding, body⟩, ts)
  | _ => none

/-- A statement is read back from its tokens. -/
theorem readStatement_tokens (s : Statement) (ts : List Token) :
    readStatement (s.tokens ++ ts) = some (s, ts) := by
  cases s with
  | guard count message => simp [Statement.tokens, readStatement]
  | script parts => simp [Statement.tokens, readStatement]
  | send => simp [Statement.tokens, readStatement]

theorem lex_end : lex "\x7d;" = [.mark '}', .mark ';'] := rfl

/-- A block is read back from its tokens. -/
theorem readBlock_tokens (b : Block) (ts : List Token) :
    readBlock (b.tokens ++ ts) = some (b, ts) := by
  have hne (s : Statement) : s.tokens ≠ [] := by cases s <;> exact List.cons_ne_nil _ _
  have hend : readStatement (lex "\x7d;" ++ ts) = none := by rw [lex_end]; rfl
  have hends : lex "\x7d;" ++ ts ≠ [] := by rw [lex_end]; exact List.cons_ne_nil _ _
  have hbody : many readStatement (b.body.flatMap Statement.tokens ++ (lex "\x7d;" ++ ts)).length
      (b.body.flatMap Statement.tokens ++ (lex "\x7d;" ++ ts)) = (b.body, lex "\x7d;" ++ ts) :=
    many_flatMap (fun s _ => readStatement_tokens s) (fun s _ => hne s) hend hends
  simp only [Block.tokens, readBlock, List.cons_append, List.append_assoc, word_cons, expect_append,
    Option.bind_eq_bind, Option.bind_some, hbody]
  rfl

/-! ## Literals -/

/-- The text of a part. -/
def Part.source : Part → List Char
  | .text cs => cs
  | .hole code => '$' :: '{' :: code ++ ['}']

/-- The text between the quotes of a template literal. -/
def source (parts : List Part) : String := String.ofList (parts.flatMap Part.source)

/-- The code of a hole. -/
def Part.code? : Part → Option (List Char)
  | .text _ => none
  | .hole code => some code

/-- The code in the holes of a template literal. -/
def holes (parts : List Part) : List (List Char) := parts.filterMap Part.code?

/-- Does everything in the part stand for itself, also the code of a hole? -/
def Part.IsPlain : Part → Prop
  | .text cs | .hole cs => ∀ c ∈ cs, isPlain c = true

@[simp] theorem holes_text_cons (cs : List Char) (parts : List Part) :
    holes (.text cs :: parts) = holes parts := rfl

@[simp] theorem holes_hole_cons (code : List Char) (parts : List Part) :
    holes (.hole code :: parts) = code :: holes parts := rfl

section
variable {parts : List Part} {c : Char}

end

/-! ## Running -/

/-- What a hole stands for. -/
inductive Hole
  /-- The number of the arguments. -/
  | count
  /-- An argument, as a text. -/
  | argument (index : Nat)
  deriving DecidableEq, Repr

/-- The code of the hole for an argument. -/
def stringifyCode (index : Nat) : List Char :=
  "JSON.stringify(args[".toList ++ (Decimal.natDigits index ++ "])".toList)

/-- What the code of a hole stands for. -/
def readHole (code : List Char) : Option Hole :=
  let ts := lex (String.ofList code)
  match expect (lex "JSON.stringify(args[") ts with
  | some ts => do
    let (index, ts) ← number ts
    if ts = lex "])" then some (.argument index) else none
  | none => if ts = lex "args.length" then some .count else none

/-- The text that is put in a hole, for arguments that are shown in some way. -/
def Hole.fill (shown : α → String) (args : List α) : Hole → Option (List Char)
  | .count => some (Decimal.natDigits args.length)
  | .argument index => args[index]?.map fun v => (shown v).toList

/-- The text of a template literal with all its holes filled. -/
def fill (shown : α → String) (args : List α) : List Part → Option (List Char)
  | [] => some []
  | .text cs :: parts => (fill shown args parts).map fun rest => cs ++ rest
  | .hole code :: parts => do
    let hole ← readHole code
    let text ← hole.fill shown args
    (fill shown args parts).map fun rest => text ++ rest

/-- How the run of a wrapper ends. -/
inductive Outcome
  /-- It throws an error. A script may have been built before. -/
  | threw (message : String) (script : Option String)
  /-- It sends a script. -/
  | sent (script : String)
  deriving DecidableEq, Repr

/-- Runs statements, with the script that has been built. -/
def runBody (shown : α → String) (args : List α) : Option String → List Statement → Option Outcome
  | _, [] => none
  | script, .guard count message :: rest =>
    if args.length = count then runBody shown args script rest
    else do
      let text ← fill shown args message
      return .threw (String.ofList text) script
  | _, .script parts :: rest => do
    let text ← fill shown args parts
    runBody shown args (some (String.ofList text)) rest
  | script, .send :: _ => script.map .sent

/-- Runs a wrapper. -/
def Block.run (b : Block) (shown : α → String) (args : List α) : Option Outcome :=
  runBody shown args none b.body

section
variable {shown : α → String} {args : List α} {parts parts' : List Part} {text text' : List Char}

/-- The code in an argument's hole as tokens. -/
theorem lex_stringifyCode (index : Nat) :
    lex (String.ofList (stringifyCode index)) =
      lex "JSON.stringify(args[" ++ .word (numeral index) :: lex "])" := by
  have hfront : Reads .blank "JSON.stringify(args[".toList (lex "JSON.stringify(args[") .blank := by
    rfl
  have hback : Reads .blank "])".toList (lex "])") .blank := rfl
  have hnumeral : Reads .blank (Decimal.natDigits index ++ "])".toList)
      (.word (numeral index) :: lex "])") .blank := by
    have hword : IsWord (numeral index).toList := by
      rw [numeral, String.toList_ofList]
      exact isWord_natDigits index
    have hread := Reads.word hword (by rfl) hback
    rwa [numeral, String.toList_ofList] at hread
  have hall := Reads.append hfront hnumeral
  rw [← String.toList_ofList (l := _ ++ _)] at hall
  exact congrArg (·.getD []) (tokens?_eq_some hall)

/-- The hole for an argument stands for it. -/
@[simp] theorem readHole_stringifyCode (index : Nat) :
    readHole (stringifyCode index) = some (.argument index) := by
  simp [readHole, lex_stringifyCode]

end

/-! ## Calls -/

/-- Holes for arguments with commas between them. -/
def argumentParts : List Nat → List Part
  | [] => []
  | [index] => [.hole (stringifyCode index)]
  | index :: rest => .hole (stringifyCode index) :: .text [',', ' '] :: argumentParts rest

/-- The template literal of a script that calls a function on some of the arguments. -/
def callParts (function : String) (indices : List Nat) : List Part :=
  if indices.isEmpty then [.text ("return " ++ function ++ "()").toList]
  else .text ("return " ++ function ++ "(").toList :: (argumentParts indices ++ [.text [')']])

section
variable {indices : List Nat} {function : String} {part : Part}

/-- A call without arguments has no holes. -/
theorem callParts_nil (function : String) :
    callParts function [] = [.text ("return " ++ function ++ "()").toList] := rfl

/-- A call with arguments has them between its parentheses. -/
theorem callParts_of_ne_nil (h : indices ≠ []) (function : String) :
    callParts function indices =
      .text ("return " ++ function ++ "(").toList :: (argumentParts indices ++ [.text [')']]) := by
  rw [callParts, if_neg]
  rwa [List.isEmpty_iff]

/-- There is one hole for each argument, in their order. -/
theorem holes_argumentParts (indices : List Nat) :
    holes (argumentParts indices) = indices.map stringifyCode := by
  induction indices using argumentParts.induct with
  | case1 => rfl
  | case2 index => rfl
  | case3 index rest hne ih =>
    rw [argumentParts, List.map_cons, ← ih]
    · rfl
    · exact hne

/-- The only holes of a script are those for the arguments. -/
theorem holes_callParts (function : String) (indices : List Nat) :
    holes (callParts function indices) = indices.map stringifyCode := by
  by_cases hne : indices = []
  · rw [hne]
    rfl
  · have hcall : holes (.text ("return " ++ function ++ "(").toList ::
        (argumentParts indices ++ [.text [')']])) =
        holes (argumentParts indices) ++ holes [.text [')']] := List.filterMap_append
    rw [callParts_of_ne_nil hne, hcall, holes_argumentParts]
    exact List.append_nil _

end

/-- Takes holes with commas between them, and the bracket after them. -/
def readHoles : List Part → Option (List Hole)
  | .hole code :: .text cs :: rest => do
    let hole ← readHole code
    if cs = [')'] ∧ rest = [] then return [hole]
    else if cs = [',', ' '] then
      let holes ← readHoles rest
      return hole :: holes
    else none
  | _ => none

/-- The function that a script calls, and the holes for the arguments of the call. -/
def readCall : List Part → Option (String × List Hole)
  | .text cs :: rest =>
    if "return ".toList.isPrefixOf cs then
      let call := cs.drop "return ".length
      let function := String.ofList (call.takeWhile (· ≠ '('))
      match call.dropWhile (· ≠ '('), rest with
      | ['(', ')'], [] => some (function, [])
      | ['('], rest => (readHoles rest).map fun holes => (function, holes)
      | _, _ => none
    else none
  | [] | .hole _ :: _ => none

section
variable {shown : α → String} {args vs : List α} {parts : List Part} {indices : List Nat}
  {function : String}

/-- The holes of the arguments are read back, in their order. -/
theorem readHoles_argumentParts (hne : indices ≠ []) :
    readHoles (argumentParts indices ++ [.text [')']]) = some (indices.map .argument) := by
  induction indices with
  | nil => exact absurd rfl hne
  | cons index rest ih =>
    cases rest with
    | nil => simp [argumentParts, readHoles]
    | cons next rest => simp [argumentParts, readHoles, ih (List.cons_ne_nil _ _)]

/-- A script reads as the call it was made for, if no bracket is in the function's name. -/
theorem readCall_callParts (h : '(' ∉ function.toList) (indices : List Nat) :
    readCall (callParts function indices) = some (function, indices.map .argument) := by
  have hname : ∀ c ∈ function.toList, decide (c ≠ '(') = true := by
    intro c hc
    exact decide_eq_true fun he => h (he ▸ hc)
  have hreturn (cs : List Char) : "return ".toList.isPrefixOf ("return ".toList ++ cs) = true := by
    rw [List.isPrefixOf_iff_prefix]
    exact List.prefix_append _ _
  have hdrop (cs : List Char) : ("return ".toList ++ cs).drop "return ".length = cs :=
    List.drop_left
  by_cases hne : indices = []
  · have htext : ("return " ++ function ++ "()").toList =
        "return ".toList ++ (function.toList ++ ['(', ')']) := by simp
    rw [hne, callParts_nil, htext, readCall, if_pos (hreturn _)]
    simp only [hdrop, List.takeWhile_append_of_pos hname, List.dropWhile_append_of_pos hname]
    simp
  · have htext : ("return " ++ function ++ "(").toList =
        "return ".toList ++ (function.toList ++ ['(']) := by simp
    rw [callParts_of_ne_nil hne, htext, readCall, if_pos (hreturn _)]
    simp only [hdrop, List.takeWhile_append_of_pos hname, List.dropWhile_append_of_pos hname]
    simp [readHoles_argumentParts hne]

end

end ModuleBridge.JavaScript
