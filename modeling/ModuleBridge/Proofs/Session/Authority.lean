import ModuleBridge.Session.Url

/-!
# What stands in front of a path

The user, the host and the port of an address are shown without the characters that end the front
of an address, whatever is given for them: what may not stand in a name is refused, digits and the
ASCII forms of labels have no such characters, and those of a user are written with percent signs.
So the front ends where the path begins (`exists_front_of_requestUrl`).
-/

namespace ModuleBridge.Session

/-- No character ends the front of an address. -/
def IsFront (cs : List Char) : Prop := ∀ c ∈ cs, endsAuthority c = false

section
variable {cs ds host : List Char} {c : Char} {texts : List String} {shown operation url : String}
  {endpoint : SessionEndpoint}

/-- The characters that end an authority. -/
theorem endsAuthority_iff : endsAuthority c = true ↔ c = '/' ∨ c = '?' ∨ c = '#' := by
  simp [endsAuthority, or_assoc]

theorem IsFront.nil : IsFront [] := nofun

/-- Texts that do not end an authority may be joined. -/
theorem IsFront.append (h : IsFront cs) (h' : IsFront ds) : IsFront (cs ++ ds) :=
  List.forall_mem_append.2 ⟨h, h'⟩

/-- A character that does not end an authority may be put in front. -/
theorem IsFront.cons (h : endsAuthority c = false) (h' : IsFront cs) : IsFront (c :: cs) :=
  List.forall_mem_cons.2 ⟨h, h'⟩

/-- Texts may be joined by a separator that does not end an authority either. -/
theorem IsFront.joinWith {separator : String} (hs : IsFront separator.toList)
    (h : ∀ t ∈ texts, IsFront t.toList) : IsFront (Text.joinWith separator texts).toList := by
  fun_induction Text.joinWith separator texts with
  | case1 => exact .nil
  | case2 t => exact h t List.mem_cons_self
  | case3 t rest _ ih =>
    rw [List.forall_mem_cons] at h
    rw [String.toList_append, String.toList_append]
    exact (h.1.append hs).append (ih h.2)

/-! ## Numbers -/

/-- The digits of a number, in any base up to sixteen, do not end an authority. -/
theorem isFront_toDigits {base : Nat} (hlow : 1 < base) (hhigh : base ≤ 16) (n : Nat) :
    IsFront (Nat.toDigits base n) := by
  have hdigit : ∀ d < 16, endsAuthority (Nat.digitChar d) = false := by decide
  induction n using Nat.strongRecOn with
  | ind n ih =>
    rcases Nat.lt_or_ge n base with hn | hn
    · rw [Nat.toDigits_of_lt_base hn]
      exact .cons (hdigit n (by omega)) .nil
    · rw [Nat.toDigits_of_base_le hlow hn]
      have hmod : n % base < base := Nat.mod_lt n (by omega)
      exact (ih _ (Nat.div_lt_self (by omega) hlow)).append (.cons (hdigit _ (by omega)) .nil)

/-- A decimal number does not end an authority. -/
theorem isFront_toString (n : Nat) : IsFront (toString n).toList := by
  have hdigits : (toString n).toList = Nat.toDigits 10 n := Nat.toList_repr
  rw [hdigits]
  exact isFront_toDigits (by decide) (by decide) n

/-- The numbers of an address of four bytes do not end an authority. -/
theorem isFront_bytesText (bytes : List Nat) : IsFront (Host.bytesText bytes).toList := by
  refine .joinWith (.cons rfl .nil) fun t ht => ?_
  obtain ⟨n, -, rfl⟩ := List.mem_map.1 ht
  exact isFront_toString n

/-- The pieces of an address between colons do not end an authority. -/
theorem isFront_joinPieces (pieces : List Nat) : IsFront (Host.joinPieces pieces).toList := by
  refine .joinWith (.cons rfl .nil) fun t ht => ?_
  obtain ⟨n, -, rfl⟩ := List.mem_map.1 ht
  rw [String.toList_ofList]
  exact isFront_toDigits (by decide) (by decide) n

/-- An address of eight pieces does not end an authority, however it is shortened. -/
theorem isFront_piecesText (pieces : List Nat) : IsFront (Host.piecesText pieces).toList := by
  rw [Host.piecesText]
  split
  · exact isFront_joinPieces pieces
  · simp only [toString, String.toList_append]
    exact ((isFront_joinPieces _).append (.cons rfl (.cons rfl .nil))).append (isFront_joinPieces _)

/-! ## Names -/

/-- The digits of an encoded label do not end an authority. -/
theorem isFront_digits (bias position number : Nat) :
    IsFront (Host.Punycode.digits bias position number) := by
  have hdigit : ∀ d < 36, endsAuthority (Host.Punycode.digit d) = false := by decide
  have hle (position : Nat) : Host.Punycode.threshold bias position ≤ 26 := by
    rw [Host.Punycode.threshold]
    omega
  fun_induction Host.Punycode.digits bias position number with
  | case1 position number t hlast =>
    have := hle position
    exact .cons (hdigit number (by omega)) .nil
  | case2 position number t hlast ih =>
    have := hle position
    have hmod : (number - t) % (36 - t) < 36 - t := Nat.mod_lt _ (by omega)
    exact .cons (hdigit _ (by omega)) ih

/-- The insertions of an encoded label do not end an authority. -/
theorem isFront_writeInsertions (s : Host.Punycode.State)
    (insertions : List Host.Punycode.Insertion) :
    IsFront (Host.Punycode.writeInsertions s insertions) := by
  induction insertions generalizing s with
  | nil => exact .nil
  | cons insertion rest ih => exact (isFront_digits _ _ _).append (ih _)

/-- The ASCII form of a label has no character but digits and those of the label. -/
theorem isFront_labelToAscii (h : IsFront cs) : IsFront (Host.labelToAscii cs) := by
  have hascii : IsFront (cs.filter Host.Punycode.isAscii) := fun c hc => h c (List.mem_filter.1 hc).1
  have hmark : IsFront Host.asciiMark := .cons rfl (.cons rfl (.cons rfl (.cons rfl .nil)))
  rw [Host.labelToAscii]
  split
  · exact h
  · refine hmark.append (.append ?_ (isFront_writeInsertions _ _))
    split
    · exact .nil
    · exact hascii.append (.cons rfl .nil)

/-- What may not stand in a name has all that ends the front of an address. -/
theorem isFront_of_isLabel (h : Host.isLabel cs = true) : IsFront cs := by
  rw [Host.isLabel, Bool.and_eq_true, Bool.not_eq_true', List.any_eq_false] at h
  intro c hc
  rw [Bool.eq_false_iff]
  intro hend
  refine h.1 c hc ?_
  rcases endsAuthority_iff.1 hend with rfl | rfl | rfl <;> rfl

/-- Labels with dots between them do not end an authority if none of them does. -/
theorem isFront_joinDots {labels : List (List Char)} (h : ∀ label ∈ labels, IsFront label) :
    IsFront (Host.joinDots labels) := by
  rw [Host.joinDots]
  induction labels with
  | nil => exact .nil
  | cons label rest ih =>
    obtain ⟨hlabel, hrest⟩ := List.forall_mem_cons.1 h
    cases rest with
    | nil => rwa [List.intercalate_singleton]
    | cons next rest =>
      rw [List.intercalate_cons_cons]
      exact (hlabel.append (.cons rfl .nil)).append (ih hrest)

/-- A host name that was taken does not end an authority. -/
theorem isFront_toAscii? (h : Host.Name.toAscii? cs = some ds) : IsFront ds := by
  simp only [Host.Name.toAscii?, bind, Option.bind_eq_some_iff] at h
  obtain ⟨spelled, -, labels, -, h⟩ := h
  split at h
  · next hlabels =>
    cases h
    refine isFront_joinDots fun form hform => ?_
    obtain ⟨label, hlabel, rfl⟩ := List.mem_map.1 hform
    rw [Bool.and_eq_true, List.all_eq_true] at hlabels
    exact isFront_labelToAscii (isFront_of_isLabel (hlabels.1 label hlabel))
  · cases h

/-! ## Hosts, ports and users -/

/-- A host is shown without what ends the front of an address. -/
theorem isFront_readHost (h : readHost host = .ok shown) : IsFront shown.toList := by
  unfold readHost at h
  split at h
  · cases h
  · split at h
    · cases h
      simp only [toString, String.toList_append]
      exact (IsFront.append (.cons rfl .nil) (isFront_piecesText _)).append (.cons rfl .nil)
    · cases h
  · split at h
    · cases h
    · cases h
    · next name hname =>
      split at h
      · split at h <;> cases h
        exact isFront_bytesText _
      · cases h
        obtain ⟨decoded, -, hascii⟩ := Option.bind_eq_some_iff.1 hname
        rw [String.toList_ofList]
        exact isFront_toAscii? hascii

/-- A port does not end an authority. -/
theorem isFront_readPort (h : readPort cs = .ok shown) : IsFront shown.toList := by
  unfold readPort at h
  split at h
  · cases h
    exact .nil
  · dsimp only at h
    split at h
    · cases h
    · split at h <;> cases h
      · exact .nil
      · simp only [String.toList_append]
        exact IsFront.append (.cons rfl .nil) (isFront_toString _)

/-- What is written with percent signs has only characters that may stay, percent signs and
digits. -/
theorem mem_encode {isEncoded : Char → Bool} (h : c ∈ Text.Percent.encode isEncoded cs) :
    (c ∈ cs ∧ isEncoded c = false) ∨ c = '%' ∨ ∃ d < 16, c = Text.Percent.digit d := by
  obtain ⟨d, hd, h⟩ := List.mem_flatMap.1 h
  split at h
  · next hplain =>
    cases List.mem_singleton.1 h
    rw [Bool.and_eq_true, Bool.not_eq_true'] at hplain
    exact .inl ⟨hd, hplain.2⟩
  · obtain ⟨b, -, h⟩ := List.mem_flatMap.1 h
    have hb : b.toNat < 256 := b.toNat_lt
    simp only [Text.Percent.encodeByte, List.mem_cons, List.not_mem_nil, or_false] at h
    rcases h with rfl | rfl | rfl
    · exact .inr (.inl rfl)
    · exact .inr (.inr ⟨_, by omega, rfl⟩)
    · exact .inr (.inr ⟨_, by omega, rfl⟩)

/-- The characters that end the front of an address are written with percent signs in a user. -/
theorem isFront_encode (cs : List Char) : IsFront (Text.Percent.encode isEncodedInUser cs) := by
  have hdigit : ∀ d < 16, endsAuthority (Text.Percent.digit d) = false := by decide
  intro c hc
  rcases mem_encode hc with ⟨-, hplain⟩ | rfl | ⟨d, hd, rfl⟩
  · rw [Bool.eq_false_iff]
    intro hend
    rcases endsAuthority_iff.1 hend with rfl | rfl | rfl <;> cases hplain
  · rfl
  · exact hdigit d hd

/-- The user's name does not end an authority: what would end it is encoded. -/
theorem isFront_userText (user : List Char) : IsFront (userText user).toList := by
  unfold userText
  dsimp only
  split
  · exact .nil
  · split <;> simp only [toString, String.toList_append, String.toList_ofList]
    · exact (isFront_encode _).append (.cons rfl .nil)
    · exact (((isFront_encode _).append (.cons rfl .nil)).append (isFront_encode _)).append
        (.cons rfl .nil)

/-! ## Addresses -/

/-- The address of a request is shown with a front that ends where the path begins. -/
theorem exists_front_of_requestUrl (h : requestUrl endpoint operation = .ok url)
    (hcs : s!"{endpoint.text}/{apiPath}{operation}".toList = cs) :
    ∃ front, IsFront front ∧ url = "http://" ++ String.ofList front ++
      pathText (cs.drop (cs.takeWhile fun c => !endsAuthority c).length) := by
  unfold requestUrl at h
  simp only [hcs] at h
  obtain ⟨place, hplace⟩ :
      ∃ place, splitUser (cs.takeWhile fun c => !endsAuthority c) = place := ⟨_, rfl⟩
  rw [hplace] at h
  cases hhost : readHost (splitHost false place.2).1 with
  | error fault =>
    rw [hhost] at h
    cases h
  | ok host =>
    cases hport : readPort (splitHost false place.2).2 with
    | error fault =>
      rw [hhost, hport] at h
      cases h
    | ok port =>
      rw [hhost, hport] at h
      refine ⟨(userText place.1).toList ++ host.toList ++ port.toList,
        ((isFront_userText _).append (isFront_readHost hhost)).append (isFront_readPort hport), ?_⟩
      change (if _ then Except.error _ else Except.ok _) = _ at h
      split at h
      · cases h
      · cases h
        simp only [String.ofList_append, String.ofList_toList, String.append_assoc]
        rfl

end

end ModuleBridge.Session
