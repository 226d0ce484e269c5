import ModuleBridge.Session.Client

/-!
# Addresses of operations

The name of an operation ends the address of its requests, wherever in an address it comes to stand:
in the path, or in a query or a fragment that an endpoint begins (`pathText_append`). So the
addresses of two operations of an endpoint differ in these names only, and an endpoint that makes an
address for one of them makes one for any operation with a name that is not longer
(`requestUrl_of_shorter`).
-/

namespace ModuleBridge.Session

open Text.Percent (encode)

/-- Is the character shown as it is wherever it stands in an address after the host? -/
def isPlain (c : Char) : Bool :=
  c.toNat < 0x80 && c ≠ '#' && c ≠ '?' && !isEncodedInQuery c && !isEncodedInFragment c

/-- A name of characters that are shown as they are. -/
structure IsPlain (name : List Char) : Prop where
  ne_nil : name ≠ []
  all : ∀ c ∈ name, isPlain c = true

/-- The names of the operations are plain. -/
theorem isPlain_operation (operation : Operation) : IsPlain operation.name.toList := by
  cases operation <;> exact ⟨List.cons_ne_nil _ _, List.all_eq_true.1 rfl⟩

section
variable {cs ds name : List Char} {isEncoded p : Char → Bool} {endpoint : SessionEndpoint}
  {operation other url : String}

/-- Texts are encoded one after the other. -/
theorem encode_append (isEncoded : Char → Bool) (cs ds : List Char) :
    encode isEncoded (cs ++ ds) = encode isEncoded cs ++ encode isEncoded ds :=
  List.flatMap_append

/-- Nothing is encoded in a text whose characters are all kept. -/
theorem encode_eq_self (h : ∀ c ∈ cs, c.toNat < 0x80 ∧ isEncoded c = false) :
    encode isEncoded cs = cs := by
  induction cs with
  | nil => rfl
  | cons c cs ih =>
    obtain ⟨⟨hascii, hc⟩, hcs⟩ := List.forall_mem_cons.1 h
    rw [← List.singleton_append, encode_append, ih hcs]
    simp [encode, hascii, hc]

namespace IsPlain

theorem not_mem (h : IsPlain name) : '#' ∉ name ∧ '?' ∉ name :=
  ⟨fun hmem => Bool.false_ne_true (h.all '#' hmem), fun hmem => Bool.false_ne_true (h.all '?' hmem)⟩

/-- A plain name stays as it is in a query. -/
theorem encode_query (h : IsPlain name) : encode isEncodedInQuery name = name := by
  refine encode_eq_self fun c hc => ?_
  have hplain := h.all c hc
  simp only [isPlain, Bool.and_eq_true, decide_eq_true_eq, Bool.not_eq_true'] at hplain
  exact ⟨hplain.1.1.1.1, hplain.1.2⟩

/-- A plain name stays as it is in a fragment. -/
theorem encode_fragment (h : IsPlain name) : encode isEncodedInFragment name = name := by
  refine encode_eq_self fun c hc => ?_
  have hplain := h.all c hc
  simp only [isPlain, Bool.and_eq_true, decide_eq_true_eq, Bool.not_eq_true'] at hplain
  exact ⟨hplain.1.1.1.1, hplain.2⟩

end IsPlain

/-- The front of some characters that ends within them does so whatever comes after them. -/
theorem takeWhile_append_of_mem {c : Char} (hmem : c ∈ cs) (hc : p c = false) (ds : List Char) :
    (cs ++ ds).takeWhile p = cs.takeWhile p := by
  rw [List.takeWhile_append, if_neg]
  intro hlength
  have hall : cs.takeWhile p = cs := (List.takeWhile_prefix p).eq_of_length hlength
  have hpc := List.all_takeWhile (p := p) (l := cs)
  rw [hall, List.all_eq_true] at hpc
  exact absurd (hpc c hmem) (by rw [hc]; exact Bool.false_ne_true)

theorem takeWhile_append_of_not_mem {c : Char} (hcs : c ∉ cs) (hds : c ∉ ds) :
    (cs ++ ds).takeWhile (· ≠ c) = cs ++ ds := by
  have hall : ∀ d ∈ cs ++ ds, decide (d ≠ c) = true := by
    intro d hd
    refine decide_eq_true fun h => ?_
    rw [h, List.mem_append] at hd
    exact hd.elim hcs hds
  have happend : ((cs ++ ds) ++ []).takeWhile (· ≠ c) = (cs ++ ds) ++ [].takeWhile (· ≠ c) :=
    List.takeWhile_append_of_pos hall
  rwa [List.append_nil, List.takeWhile_nil, List.append_nil] at happend

/-- What is shown after host and port ends in a plain name if it does so before. -/
theorem pathText_append (rest : List Char) :
    ∃ front, ∀ name, IsPlain name → pathText (rest ++ name) = String.ofList (front ++ name) := by
  by_cases hhash : '#' ∈ rest
  · -- the name ends a fragment
    refine ⟨(if ((rest.takeWhile (· ≠ '#')).takeWhile (· ≠ '?')).isEmpty then ['/']
      else (rest.takeWhile (· ≠ '#')).takeWhile (· ≠ '?')) ++
      encode isEncodedInQuery ((rest.takeWhile (· ≠ '#')).drop
        ((rest.takeWhile (· ≠ '#')).takeWhile (· ≠ '?')).length) ++
      encode isEncodedInFragment (rest.drop (rest.takeWhile (· ≠ '#')).length), fun name hname => ?_⟩
    have hfront : (rest ++ name).takeWhile (· ≠ '#') = rest.takeWhile (· ≠ '#') :=
      takeWhile_append_of_mem hhash rfl name
    have hlength : (rest.takeWhile (· ≠ '#')).length ≤ rest.length :=
      (List.takeWhile_prefix _).length_le
    simp only [pathText, hfront, List.drop_append_of_le_length hlength, encode_append,
      hname.encode_fragment, List.append_assoc]
  · have hhash' : ∀ name, IsPlain name → (rest ++ name).takeWhile (· ≠ '#') = rest ++ name :=
      fun name hname => takeWhile_append_of_not_mem hhash hname.not_mem.1
    by_cases hquery : '?' ∈ rest
    · -- the name ends a query
      refine ⟨(if (rest.takeWhile (· ≠ '?')).isEmpty then ['/'] else rest.takeWhile (· ≠ '?')) ++
        encode isEncodedInQuery (rest.drop (rest.takeWhile (· ≠ '?')).length), fun name hname => ?_⟩
      have hpath : (rest ++ name).takeWhile (· ≠ '?') = rest.takeWhile (· ≠ '?') :=
        takeWhile_append_of_mem hquery rfl name
      have hlength : (rest.takeWhile (· ≠ '?')).length ≤ rest.length :=
        (List.takeWhile_prefix _).length_le
      have hfragment : encode isEncodedInFragment [] = [] := rfl
      simp only [pathText, hhash' name hname, hpath, List.drop_append_of_le_length hlength,
        encode_append, hname.encode_query, List.drop_length, hfragment,
        List.append_nil, List.append_assoc]
    · -- the name ends the path
      refine ⟨rest, fun name hname => ?_⟩
      have hpath : (rest ++ name).takeWhile (· ≠ '?') = rest ++ name :=
        takeWhile_append_of_not_mem hquery hname.not_mem.2
      have hempty : (rest ++ name).isEmpty = false := by
        rw [List.isEmpty_eq_false_iff]
        exact List.append_ne_nil_of_right_ne_nil rest hname.ne_nil
      have hencode (isEncoded : Char → Bool) : encode isEncoded [] = [] := rfl
      simp only [pathText, hhash' name hname, hpath, hempty, List.drop_length, hencode,
        List.append_nil, Bool.false_eq_true, if_false]

/-- An endpoint has one host and port, and so one front of the addresses of all its operations,
unless it makes no address at all. -/
theorem requestUrl_cases (endpoint : SessionEndpoint) :
    (∃ fault, ∀ operation, requestUrl endpoint operation = .error fault) ∨
      ∃ (isRefused : Bool) (front : String), ∀ operation : String, IsPlain operation.toList →
        requestUrl endpoint operation =
          if isRefused || urlLimit < (front ++ operation).utf8ByteSize then
            .error (.unusable (front ++ operation))
          else .ok (front ++ operation) := by
  obtain ⟨base, hbase⟩ : ∃ base, base = endpoint.text ++ "/" ++ apiPath := ⟨_, rfl⟩
  obtain ⟨authority, hauthority⟩ :
      ∃ authority, base.toList.takeWhile (fun c => !endsAuthority c) = authority := ⟨_, rfl⟩
  have hchars (operation : String) :
      s!"{endpoint.text}/{apiPath}{operation}".toList = base.toList ++ operation.toList := by
    rw [hbase, ← String.toList_append]
    rfl
  have hslash : '/' ∈ base.toList := by
    rw [hbase, String.toList_append, String.toList_append]
    exact List.mem_append_left _ (List.mem_append_right _ List.mem_cons_self)
  have htake (operation : String) :
      (base.toList ++ operation.toList).takeWhile (fun c => !endsAuthority c) = authority := by
    rw [takeWhile_append_of_mem hslash rfl, hauthority]
  have hdrop (operation : String) : (base.toList ++ operation.toList).drop authority.length =
      base.toList.drop authority.length ++ operation.toList := by
    refine List.drop_append_of_le_length ?_
    rw [← hauthority]
    exact (List.takeWhile_prefix _).length_le
  unfold requestUrl
  simp only [hchars, htake, hdrop]
  cases readHost (splitHost false (splitUser authority).2).1 with
  | error fault => exact .inl ⟨fault, fun _ => rfl⟩
  | ok host =>
    cases readPort (splitHost false (splitUser authority).2).2 with
    | error fault => exact .inl ⟨fault, fun _ => rfl⟩
    | ok port =>
      obtain ⟨path, hpath⟩ := pathText_append (base.toList.drop authority.length)
      refine .inr ⟨host.toList.any isUnusable,
        s!"http://{userText (splitUser authority).1}{host}{port}" ++ String.ofList path,
        fun operation hoperation => ?_⟩
      have hurl : s!"http://{userText (splitUser authority).1}{host}{port}" ++
          pathText (base.toList.drop authority.length ++ operation.toList) =
          s!"http://{userText (splitUser authority).1}{host}{port}" ++ String.ofList path ++
            operation := by
        rw [hpath _ hoperation, String.ofList_append, String.ofList_toList, ← String.append_assoc]
      rw [← hurl]
      rfl

/-- An endpoint that makes an address for one name makes one for any that is not longer. -/
theorem requestUrl_of_shorter (hoperation : IsPlain operation.toList) (hother : IsPlain other.toList)
    (hsize : other.utf8ByteSize ≤ operation.utf8ByteSize)
    (h : requestUrl endpoint operation = .ok url) :
    ∃ url, requestUrl endpoint other = .ok url := by
  rcases requestUrl_cases endpoint with ⟨fault, hfault⟩ | ⟨isRefused, front, hurl⟩
  · rw [hfault] at h
    cases h
  · rw [hurl _ hoperation] at h
    split at h
    · cases h
    · next hfree =>
      refine ⟨front ++ other, (hurl _ hother).trans (if_neg ?_)⟩
      simp only [Bool.or_eq_true, decide_eq_true_eq, String.utf8ByteSize_append, not_or] at hfree ⊢
      exact ⟨hfree.1, by omega⟩

/-- The addresses of two operations differ. -/
theorem eq_of_requestUrl {first second : Operation}
    (hfirst : requestUrl endpoint first.name = .ok url)
    (hsecond : requestUrl endpoint second.name = .ok url) : first = second := by
  rcases requestUrl_cases endpoint with ⟨fault, hfault⟩ | ⟨isRefused, front, hurl⟩
  · rw [hfault] at hfirst
    cases hfirst
  · have hname {operation : Operation} (h : requestUrl endpoint operation.name = .ok url) :
        front ++ operation.name = url := by
      rw [hurl _ (isPlain_operation operation)] at h
      split at h
      · cases h
      · exact Except.ok.inj h
    have hsame : front ++ first.name = front ++ second.name :=
      (hname hfirst).trans (hname hsecond).symm
    rw [← String.toList_inj, String.toList_append, String.toList_append,
      List.append_right_inj, String.toList_inj] at hsame
    cases first <;> cases second <;> first | rfl | exact absurd hsame (by decide)

/-! ## An address -/

theorem userText_nil : userText [] = "" := by
  have hdecode : Text.Percent.decode? [] = some [] := by
    simp [Text.Percent.decode?, Text.Utf8.encode, Text.Percent.decode, Text.Utf8.decode?]
  simp [userText, hdecode]

/-- The requests to the loopback address of sixteen bytes. -/
theorem requestUrl_loopback (operation : Operation) :
    requestUrl ⟨"[::1]"⟩ operation.name = .ok s!"http://[::1]/{apiPath}{operation.name}" := by
  obtain ⟨endpoint, hendpoint⟩ : ∃ endpoint : SessionEndpoint, endpoint = ⟨"[::1]"⟩ := ⟨_, rfl⟩
  have hfront : (s!"{endpoint.text}/{apiPath}{operation.name}".toList.takeWhile fun c =>
      !endsAuthority c) = "[::1]".toList := by
    rw [hendpoint]
    cases operation <;> decide
  have huser : splitUser "[::1]".toList = ([], "[::1]".toList) := by decide
  have hsplit : splitHost false "[::1]".toList = ("[::1]".toList, []) := by decide
  have hhost : readHost "[::1]".toList = .ok "[::1]" := rfl
  rw [← hendpoint, requestUrl]
  simp only [hfront, huser, hsplit, hhost, userText_nil]
  rw [hendpoint]
  cases operation <;> rfl

end

end ModuleBridge.Session
