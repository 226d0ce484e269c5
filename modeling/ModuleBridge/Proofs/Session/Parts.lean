import ModuleBridge.Proofs.Session.Authority
import ModuleBridge.Proofs.Session.Url
import ModuleBridge.Proofs.Wire.Types

/-!
# The parts of an address

By the generic rules for addresses, a front goes up to the first slash, question mark or hash after
the scheme, a path from there to the first question mark or hash, a query from a question mark to
the first hash, and a fragment from that on. `Parts.read` splits what follows the scheme in this
way, and it is the inverse of writing well-formed parts one after the other (`Parts.read_text`,
`Parts.text_read`).

What is in front of the path of a request is the endpoint if that has no question mark and no hash.
Otherwise the front ends within the endpoint, and what was to be the path stands in a query or a
fragment (`path_read_eq_nil`). A request has the parts of the address as they are shown, with the
path `/` in place of an empty one (`parts?_requestUrl`).
-/

namespace ModuleBridge.Session

open Text.Percent (encode)

/-! ## Splitting at a mark -/

/-- Some characters up to the first place of a mark, and those after it if it stands among them. -/
def cut (mark : Char) : List Char → List Char × Option (List Char)
  | [] => ([], none)
  | c :: cs => if c = mark then ([], some cs) else ((c :: (cut mark cs).1), (cut mark cs).2)

/-- A mark and what comes after it, if anything does. -/
def marked (mark : Char) : Option (List Char) → List Char
  | none => []
  | some rest => mark :: rest

section
variable {mark : Char} {cs front : List Char}

/-- A text is cut at its first mark. -/
theorem cut_append_marked (h : mark ∉ front) (rest : Option (List Char)) :
    cut mark (front ++ marked mark rest) = (front, rest) := by
  induction front with
  | nil =>
    cases rest with
    | none => rfl
    | some rest => exact if_pos rfl
  | cons c front ih =>
    rw [List.mem_cons, not_or] at h
    rw [List.cons_append, cut, if_neg (Ne.symm h.1), ih h.2]

/-- The two sides of a cut make up the text. -/
theorem append_marked_cut (mark : Char) (cs : List Char) :
    (cut mark cs).1 ++ marked mark (cut mark cs).2 = cs := by
  fun_induction cut mark cs with
  | case1 => rfl
  | case2 => rfl
  | case3 c cs _ ih => exact congrArg (c :: ·) ih

/-- The front of a cut goes up to the first mark. -/
theorem cut_fst (mark : Char) (cs : List Char) : (cut mark cs).1 = cs.takeWhile (· ≠ mark) := by
  fun_induction cut mark cs with
  | case1 => rfl
  | case2 cs => exact (List.takeWhile_cons_of_neg (by simp)).symm
  | case3 c cs hc ih =>
    have htake := List.takeWhile_cons_of_pos (p := (· ≠ mark)) (l := cs) (decide_eq_true hc)
    exact (congrArg (c :: ·) ih).trans htake.symm

/-- The front of a cut has no mark. -/
theorem not_mem_cut (mark : Char) (cs : List Char) : mark ∉ (cut mark cs).1 := by
  fun_induction cut mark cs with
  | case1 => exact List.not_mem_nil
  | case2 => exact List.not_mem_nil
  | case3 c cs hc ih => exact List.not_mem_cons_of_ne_of_not_mem (Ne.symm hc) ih

/-- What remains of some characters from the first place of a mark on. -/
theorem drop_cut (mark : Char) (cs : List Char) :
    cs.drop (cut mark cs).1.length = marked mark (cut mark cs).2 :=
  (congrArg (List.drop _) (append_marked_cut mark cs).symm).trans List.drop_left

/-- The front of a cut is part of the text. -/
theorem mem_of_mem_cut {c : Char} (h : c ∈ (cut mark cs).1) : c ∈ cs := by
  rw [← append_marked_cut mark cs]
  exact List.mem_append_left _ h

/-- What follows the mark is part of the text. -/
theorem mem_of_mem_rest {c : Char} {rest : List Char} (h : (cut mark cs).2 = some rest)
    (hc : c ∈ rest) : c ∈ cs := by
  rw [← append_marked_cut mark cs, h]
  exact List.mem_append_right _ (List.mem_cons_of_mem _ hc)

end

/-! ## Parts -/

/-- The parts of an address after its scheme. -/
structure Parts where
  authority : List Char
  path : List Char
  query : Option (List Char) := none
  fragment : Option (List Char) := none
  deriving DecidableEq, Repr

namespace Parts

/-- The parts one after the other. -/
def text (parts : Parts) : List Char :=
  parts.authority ++ (parts.path ++ marked '?' parts.query ++ marked '#' parts.fragment)

/-- The parts of some characters. -/
def read (cs : List Char) : Parts :=
  let authority := cs.takeWhile fun c => !endsAuthority c
  let (front, fragment) := cut '#' (cs.drop authority.length)
  let (path, query) := cut '?' front
  { authority, path, query, fragment }

/-- Parts that stand apart when they are written one after the other. -/
structure WellFormed (parts : Parts) : Prop where
  authority : IsFront parts.authority
  head : ∀ c ∈ parts.path.head?, c = '/'
  path : '?' ∉ parts.path ∧ '#' ∉ parts.path
  query : ∀ query ∈ parts.query, '#' ∉ query

section
variable {parts : Parts} {cs authority : List Char}

/-- The parts of an address make up its text. -/
theorem text_read (cs : List Char) : (read cs).text = cs := by
  have hfront := List.prefix_iff_eq_append.1
    (List.takeWhile_prefix (l := cs) fun c => !endsAuthority c)
  simp only [read, text, append_marked_cut, hfront]

/-- What follows the front begins with one of the characters that end it. -/
theorem endsAuthority_of_drop {c : Char} {rest : List Char}
    (h : cs.drop (cs.takeWhile fun c => !endsAuthority c).length = c :: rest) :
    endsAuthority c = true := by
  induction cs with
  | nil => cases h
  | cons d cs ih =>
    by_cases hd : endsAuthority d = true
    · rw [List.takeWhile_cons_of_neg (by simp [hd])] at h
      cases h
      exact hd
    · rw [List.takeWhile_cons_of_pos (by simp [hd])] at h
      exact ih h

/-- Parts that were read from a text stand apart from each other. -/
theorem wellFormed_read (cs : List Char) : (read cs).WellFormed where
  authority := fun c hc => by
    have hall := List.all_eq_true.1 (List.all_takeWhile (p := fun c => !endsAuthority c) (l := cs))
    exact (Bool.not_eq_true' _).mp (hall c hc)
  head := fun c hc => by
    obtain ⟨tail, hpath⟩ := List.head?_eq_some_iff.1 hc
    have hdrop : cs.drop (cs.takeWhile fun c => !endsAuthority c).length =
        c :: (tail ++ marked '?' (read cs).query ++ marked '#' (read cs).fragment) := by
      rw [← append_marked_cut '#' (cs.drop _), ← append_marked_cut '?' (cut '#' (cs.drop _)).1]
      exact congrArg (· ++ marked '?' (read cs).query ++ marked '#' (read cs).fragment) hpath
    have hmem : c ∈ (read cs).path := List.mem_of_mem_head? hc
    rcases endsAuthority_iff.1 (endsAuthority_of_drop hdrop) with hslash | rfl | rfl
    · exact hslash
    · exact absurd hmem (not_mem_cut _ _)
    · exact absurd (mem_of_mem_cut hmem) (not_mem_cut _ _)
  path := ⟨not_mem_cut _ _, fun h => not_mem_cut _ _ (mem_of_mem_cut h)⟩
  query := fun _ hq hhash => not_mem_cut _ _ (mem_of_mem_rest hq hhash)

/-- What follows an authority begins with a character that ends it. -/
theorem WellFormed.ends_of_head (h : parts.WellFormed) {c : Char}
    (hc : c ∈ (parts.path ++ marked '?' parts.query ++ marked '#' parts.fragment).head?) :
    endsAuthority c = true := by
  rw [endsAuthority_iff]
  obtain ⟨authority, path, query, fragment⟩ := parts
  cases path with
  | cons d path =>
    cases hc
    exact .inl (h.head _ rfl)
  | nil =>
    cases query with
    | some query =>
      cases hc
      exact .inr (.inl rfl)
    | none =>
      cases fragment with
      | some fragment =>
        cases hc
        exact .inr (.inr rfl)
      | none => cases hc

/-- In front of the fragment there is no `#`. -/
theorem WellFormed.hash_not_mem (h : parts.WellFormed) :
    '#' ∉ parts.path ++ marked '?' parts.query := by
  rw [List.mem_append, not_or]
  refine ⟨h.path.2, ?_⟩
  cases hquery : parts.query with
  | none => exact List.not_mem_nil
  | some query => exact List.not_mem_cons_of_ne_of_not_mem (by decide) (h.query _ hquery)

/-- Well-formed parts are read as they were written. -/
theorem WellFormed.read_text (h : parts.WellFormed) : read parts.text = parts := by
  have hfront : parts.text.takeWhile (fun c => !endsAuthority c) = parts.authority := by
    have hall : ∀ c ∈ parts.authority, (!endsAuthority c) = true := fun c hc =>
      (Bool.not_eq_true' _).mpr (h.authority c hc)
    rw [text, List.takeWhile_append_of_pos hall]
    cases hrest : parts.path ++ marked '?' parts.query ++ marked '#' parts.fragment with
    | nil => rw [List.takeWhile_nil, List.append_nil]
    | cons c rest =>
      have hc := h.ends_of_head (c := c) (by rw [hrest]; rfl)
      rw [List.takeWhile_cons_of_neg (by simp [hc]), List.append_nil]
  have hdrop : parts.text.drop parts.authority.length =
      parts.path ++ marked '?' parts.query ++ marked '#' parts.fragment := List.drop_left
  simp only [read, hfront, hdrop, cut_append_marked h.hash_not_mem, cut_append_marked h.path.1]

/-- A front without a slash goes up to the first one if a path begins there. -/
theorem cut_slash_text {rest : List Char} (h : '/' ∉ parts.authority)
    (hpath : parts.path = '/' :: rest) : (cut '/' parts.text).1 = parts.authority := by
  rw [text, hpath]
  exact congrArg Prod.fst (cut_append_marked h (some _))

end

end Parts

/-- The parts of an address. -/
def parts? (url : String) : Option Parts :=
  if "http://".toList.isPrefixOf url.toList then some (.read (url.toList.drop 7)) else none

/-- The parts of an address are read behind its scheme. -/
theorem parts?_http (cs : List Char) :
    parts? ("http://" ++ String.ofList cs) = some (.read cs) := by
  simp [parts?]

/-! ## Addresses of requests -/

/-- The parts as they are shown with a front. A path is there in any case. -/
def Parts.shown (parts : Parts) (authority : List Char) : Parts where
  authority := authority
  path := if parts.path.isEmpty then ['/'] else parts.path
  query := parts.query.map (encode isEncodedInQuery)
  fragment := parts.fragment.map (encode isEncodedInFragment)

section
variable {parts : Parts} {cs authority : List Char} {endpoint : SessionEndpoint}
  {text operation url : String}

/-- Encoding keeps the mark in front of a part. -/
theorem encode_marked {isEncoded : Char → Bool} {mark : Char}
    (h : mark.toNat < 0x80 ∧ isEncoded mark = false) (rest : Option (List Char)) :
    encode isEncoded (marked mark rest) = marked mark (rest.map (encode isEncoded)) := by
  cases rest with
  | none => rfl
  | some rest =>
    rw [marked, ← List.singleton_append, encode_append, encode_eq_self (by simpa using h)]
    rfl

/-- Parts stand apart from each other in the address that is shown, too. -/
theorem Parts.WellFormed.shown (h : parts.WellFormed) (hauthority : IsFront authority) :
    (parts.shown authority).WellFormed where
  authority := hauthority
  head := by
    rw [Parts.shown]
    split
    · exact fun c hc => (Option.mem_some.1 hc).symm
    · exact h.head
  path := by
    rw [Parts.shown]
    split
    · exact ⟨by simp, by simp⟩
    · exact h.path
  query := fun shown hshown => by
    have hdigit : ∀ d < 16, Text.Percent.digit d ≠ '#' := by decide
    obtain ⟨query, hquery, rfl⟩ := Option.map_eq_some_iff.1 hshown
    intro hhash
    rcases mem_encode hhash with ⟨hmem, -⟩ | hpercent | ⟨d, hd, hhash⟩
    · exact h.query query hquery hmem
    · cases hpercent
    · exact hdigit d hd hhash.symm

/-- What follows the front is shown part by part. -/
theorem pathText_drop (cs : List Char) :
    pathText (cs.drop (cs.takeWhile fun c => !endsAuthority c).length) =
      String.ofList ((Parts.read cs).shown []).text := by
  have hquery (rest : Option (List Char)) : encode isEncodedInQuery (marked '?' rest) =
      marked '?' (rest.map (encode isEncodedInQuery)) := encode_marked ⟨by decide, rfl⟩ rest
  have hfragment (rest : Option (List Char)) : encode isEncodedInFragment (marked '#' rest) =
      marked '#' (rest.map (encode isEncodedInFragment)) := encode_marked ⟨by decide, rfl⟩ rest
  simp only [pathText, ← cut_fst, drop_cut, hquery, hfragment]
  rfl

/-- A request has the parts of its address as they are shown. -/
theorem parts?_requestUrl (h : requestUrl endpoint operation = .ok url) :
    ∃ authority, parts? url =
      some ((Parts.read s!"{endpoint.text}/{apiPath}{operation}".toList).shown authority) := by
  obtain ⟨cs, hcs⟩ : ∃ cs, s!"{endpoint.text}/{apiPath}{operation}".toList = cs := ⟨_, rfl⟩
  obtain ⟨front, hfront, rfl⟩ := exists_front_of_requestUrl h hcs
  have hwell := (Parts.wellFormed_read cs).shown hfront
  have htext : String.ofList front ++ String.ofList ((Parts.read cs).shown []).text =
      String.ofList ((Parts.read cs).shown front).text := String.ofList_append.symm
  rw [hcs, pathText_drop, String.append_assoc, htext, parts?_http, hwell.read_text]
  exact ⟨front, rfl⟩

/-! ## Accepted endpoints -/

/-- The path of an operation's requests. -/
def operationPath (operation : Operation) : List Char :=
  s!"/{apiPath}{operation.name}".toList

/-- The parts that the addresses of an operation should have. -/
def intended (endpoint : SessionEndpoint) (operation : Operation) : Parts where
  authority := endpoint.text.toList
  path := operationPath operation

/-- The parts that are intended make up the endpoint with the path of the operation. -/
theorem intended_text (endpoint : SessionEndpoint) (operation : Operation) :
    (intended endpoint operation).text =
      s!"{endpoint.text}/{apiPath}{operation.name}".toList := by
  simp [intended, operationPath, Parts.text, marked, toString]

/-- The address of a request is the base address with the operation's name after it. -/
theorem baseUrl_append (endpoint : SessionEndpoint) (operation : Operation) :
    baseUrl endpoint ++ operation.name =
      "http://" ++ String.ofList (intended endpoint operation).text := by
  rw [intended_text, String.ofList_toList]
  simp [baseUrl, toString, String.append_assoc]

/-- The path of an operation begins with a slash and has neither query nor fragment. -/
theorem operationPath_eq (operation : Operation) :
    ∃ rest, operationPath operation = '/' :: rest ∧ '?' ∉ rest ∧ '#' ∉ rest := by
  cases operation with
  | register => exact ⟨"api/session/python/registermodule".toList, rfl, by decide, by decide⟩
  | execute => exact ⟨"api/session/python/execute".toList, rfl, by decide, by decide⟩

/-- The intended parts stand apart if nothing in the endpoint ends an authority. -/
theorem wellFormed_intended (h : IsFront endpoint.text.toList) (operation : Operation) :
    (intended endpoint operation).WellFormed := by
  obtain ⟨rest, hpath, hquery, hhash⟩ := operationPath_eq operation
  refine ⟨h, ?_, ?_, nofun⟩
  · rw [intended, hpath]
    exact fun c hc => (Option.mem_some.1 hc).symm
  · rw [intended, hpath]
    exact ⟨List.not_mem_cons_of_ne_of_not_mem (by decide) hquery,
      List.not_mem_cons_of_ne_of_not_mem (by decide) hhash⟩

/-- The parts are the intended ones exactly if the front can go up to the end of the endpoint. -/
theorem read_intended_iff (endpoint : SessionEndpoint) (operation : Operation) :
    Parts.read (intended endpoint operation).text = intended endpoint operation ↔
      IsFront endpoint.text.toList := by
  constructor
  · intro h
    have hwell := Parts.wellFormed_read (intended endpoint operation).text
    rw [h] at hwell
    exact hwell.authority
  · exact fun h => (wellFormed_intended h operation).read_text

/-- If the front ends within an endpoint without a slash, no path is left. -/
theorem path_read_eq_nil (hslash : '/' ∉ endpoint.text.toList)
    (hfront : ¬ IsFront endpoint.text.toList) (operation : Operation) :
    (Parts.read (intended endpoint operation).text).path = [] := by
  obtain ⟨parts, hparts⟩ : ∃ parts, Parts.read (intended endpoint operation).text = parts :=
    ⟨_, rfl⟩
  have hwell : parts.WellFormed := hparts ▸ Parts.wellFormed_read _
  have htext : parts.text = (intended endpoint operation).text := hparts ▸ Parts.text_read _
  rw [hparts]
  cases hpath : parts.path with
  | nil => rfl
  | cons c path =>
    -- both the front and the endpoint end at the first slash
    cases hwell.head c (by rw [hpath]; rfl)
    have hnot : '/' ∉ parts.authority := fun h => Bool.noConfusion (hwell.authority '/' h)
    obtain ⟨rest, hrest, -⟩ := operationPath_eq operation
    have hsame : parts.authority = endpoint.text.toList := by
      rw [← Parts.cut_slash_text hnot hpath, htext]
      exact Parts.cut_slash_text hslash hrest
    exact absurd (hsame ▸ hwell.authority) hfront

/-- An endpoint has no slash. -/
theorem slash_not_mem_of_ofText (h : SessionEndpoint.ofText text = .ok endpoint) :
    '/' ∉ endpoint.text.toList := fun hmem =>
  ((SessionEndpoint.refusal?_eq_none_iff.1 (SessionEndpoint.refusal?_of_ofText h)).2.2.1 _ hmem).1
    rfl

/-- What is accepted has no slash, so a front can go up to its end unless it has one of the other
two marks. -/
theorem isFront_iff_of_ofText (h : SessionEndpoint.ofText text = .ok endpoint) :
    IsFront endpoint.text.toList ↔ '?' ∉ endpoint.text.toList ∧ '#' ∉ endpoint.text.toList := by
  constructor
  · exact fun hfront => ⟨fun hq => Bool.noConfusion (hfront _ hq),
      fun hhash => Bool.noConfusion (hfront _ hhash)⟩
  · rintro ⟨hquery, hhash⟩ c hc
    rw [Bool.eq_false_iff]
    intro hends
    rcases endsAuthority_iff.1 hends with rfl | rfl | rfl
    · exact slash_not_mem_of_ofText h hc
    · exact hquery hc
    · exact hhash hc

/-- The address of an operation of an accepted endpoint has the endpoint as its front, the path of
the operation and nothing else, and the request goes to that path, exactly if the endpoint has no
question mark and no hash. Otherwise the address has no path and the request goes to the root.
Reference: `SessionEndpoint::new`, `base_url`. -/
theorem address_parts_iff (h : SessionEndpoint.ofText text = .ok endpoint)
    (operation : Operation) :
    (parts? (baseUrl endpoint ++ operation.name) = some (intended endpoint operation) ↔
        '?' ∉ endpoint.text.toList ∧ '#' ∉ endpoint.text.toList) ∧
      ∀ url, requestUrl endpoint operation.name = .ok url →
        if '?' ∉ endpoint.text.toList ∧ '#' ∉ endpoint.text.toList then
          ∃ authority, parts? url = some { intended endpoint operation with authority }
        else ∃ parts, parts? url = some parts ∧ parts.path = ['/'] := by
  rw [baseUrl_append, parts?_http, Option.some_inj, read_intended_iff, isFront_iff_of_ofText h]
  refine ⟨Iff.rfl, fun url hurl => ?_⟩
  obtain ⟨authority, hparts⟩ := parts?_requestUrl hurl
  rw [← intended_text] at hparts
  split
  · next hmarks =>
    have hread := (read_intended_iff endpoint operation).2 ((isFront_iff_of_ofText h).2 hmarks)
    obtain ⟨rest, hpath, -⟩ := operationPath_eq operation
    have hshown : (intended endpoint operation).shown authority =
        { intended endpoint operation with authority } := by
      simp [Parts.shown, intended, hpath]
    exact ⟨authority, by rw [hparts, hread, hshown]⟩
  · next hmarks =>
    rw [← isFront_iff_of_ofText h] at hmarks
    refine ⟨_, hparts, ?_⟩
    rw [Parts.shown, path_read_eq_nil (slash_not_mem_of_ofText h) hmarks]
    rfl

/-- The requests to `director:80` go to that authority, whatever blanks were around it. -/
theorem address_parts_iff_director :
    SessionEndpoint.ofText " director:80 " = .ok ⟨"director:80"⟩ ∧
      parts? (baseUrl ⟨"director:80"⟩ ++ Operation.register.name) =
        some (intended ⟨"director:80"⟩ .register) := by
  have hok : SessionEndpoint.ofText " director:80 " = .ok ⟨"director:80"⟩ := rfl
  exact ⟨hok, (address_parts_iff hok .register).1.2 (by decide)⟩

/-- An endpoint with a question mark is accepted, and the path of an operation gets into a query. -/
theorem address_parts_query :
    SessionEndpoint.ofText "host?x" = .ok ⟨"host?x"⟩ ∧
      parts? (baseUrl ⟨"host?x"⟩ ++ Operation.execute.name) =
        some ⟨"host".toList, [], some "x/api/session/python/execute".toList, none⟩ ∧
      parts? (baseUrl ⟨"host?x"⟩ ++ Operation.execute.name) ≠ some (intended ⟨"host?x"⟩ .execute) :=
  ⟨rfl, by decide, by decide⟩

end

end ModuleBridge.Session
