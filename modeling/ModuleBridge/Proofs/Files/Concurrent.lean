import Mathlib.Logic.Relation
import ModuleBridge.Proofs.Files.Shown

/-!
# Writing at the same time

Several writes are under way over one system. Each makes a temporary file, fills it piece by piece,
makes the next one, and at last renames them all (`Progress.Step`), and any of the writes may take
the next step (`World.Step`). A write that has taken no step yet is one that begins later. What a
call does while the others stand still are just such steps to its end (`reaches_of_effect`). Faults
of the disk are met by no step: a file is made only where the disk takes all of its contents.

`World.Sound` is the invariant: over the initial system with the renamed contents put at their goals
lie just the temporary files of the writes under way, filled so far, and what was renamed together
with what the writes have still to rename is what they were asked to write. One step of one write
keeps it, whatever the others have (`Progress.Step.stagedOver`), so every world that is reached has
it (`World.Sound.reaches`).
-/

namespace ModuleBridge.Files

/-- A call that writes files. -/
inductive Request
  | atomic (path contents : String)
  | batch (files : List (String × String))

namespace Request

/-- The paths that a call writes, each with its contents. -/
def pairs : Request → List (String × List UInt8)
  | .atomic path contents => inBytes [(path, contents)]
  | .batch files => inBytes files

/-- What a call does if nothing else happens meanwhile. -/
def effect : Request → Effect Unit
  | .atomic path contents => writeAtomic path contents
  | .batch files => writeFiles files

end Request

/-- How far a call has come. -/
inductive Progress
  /-- Some files wait, and others have still to be staged. -/
  | staging (done : List (Staged × List UInt8)) (rest : List (String × List UInt8))
  /-- A temporary file was made, and some bytes are left to be written to it. -/
  | writing (done : List (Staged × List UInt8)) (staged : Staged) (written left : List UInt8)
    (rest : List (String × List UInt8))
  /-- All files were staged, and these have still to be renamed. -/
  | renaming (waiting : List (Staged × List UInt8))

/-- A call that has not done anything yet. -/
def Request.start (request : Request) : Progress := .staging [] request.pairs

namespace Progress

/-- The temporary files of a call, with what is in them. -/
def temporaries : Progress → List (Staged × List UInt8)
  | .staging done _ => done
  | .writing done staged written _ _ => (staged, written) :: done
  | .renaming waiting => waiting

/-- The files that a call has still to rename. -/
def pending : Progress → List (String × List UInt8)
  | .staging done rest => done.map ofWaiting ++ rest
  | .writing done staged written left rest =>
    done.map ofWaiting ++ (staged.path, written ++ left) :: rest
  | .renaming waiting => waiting.map ofWaiting

/-- One step of a call, with the files that it renames. -/
inductive Step :
    FileSystem → Progress → List (String × List UInt8) → FileSystem → Progress → Prop
  /-- An empty file is made at a free place. -/
  | create {fs : FileSystem} {done : List (Staged × List UInt8)} {path : String}
    {contents : List UInt8} {rest : List (String × List UInt8)} {place : Place}
    (draws : Draws fs path place) (fills : fs.fillFault? contents = none) :
    Step fs (.staging done ((path, contents) :: rest)) []
      ((fs.put place (.file [])).afterFills 1) (.writing done ⟨path, place⟩ [] contents rest)
  /-- Some of the bytes that are left are written. -/
  | write {fs : FileSystem} {done : List (Staged × List UInt8)} {staged : Staged}
    {written left : List UInt8} {rest : List (String × List UInt8)} (piece : List UInt8) :
    Step fs (.writing done staged written (piece ++ left) rest) []
      (fs.put staged.place (.file (written ++ piece)))
      (.writing done staged (written ++ piece) left rest)
  /-- All bytes were written, and the file waits for its name. -/
  | finish {fs : FileSystem} {done : List (Staged × List UInt8)} {staged : Staged}
    {written : List UInt8} {rest : List (String × List UInt8)} :
    Step fs (.writing done staged written [] rest) [] fs
      (.staging (done ++ [(staged, written)]) rest)
  /-- All files wait, and the first can be renamed next. -/
  | turn {fs : FileSystem} {done : List (Staged × List UInt8)} :
    Step fs (.staging done []) [] fs (.renaming done)
  /-- A file gets the name of its target. -/
  | rename {fs fs' : FileSystem} {staged : Staged} {contents : List UInt8}
    {rest : List (Staged × List UInt8)} {path : String}
    (commit : staged.commit fs = (.ok path, fs')) :
    Step fs (.renaming ((staged, contents) :: rest)) [(staged.path, contents)] fs' (.renaming rest)

end Progress

/-- A system, the calls under way, and the files that these have renamed so far, in order. -/
structure World where
  fs : FileSystem
  calls : List Progress
  renamed : List (String × List UInt8) := []

namespace World

/-- The world in which some calls begin. -/
def start (fs : FileSystem) (requests : List Request) : World where
  fs := fs
  calls := requests.map Request.start

/-- Any one of the calls takes a step. -/
inductive Step : World → World → Prop
  | call {fs fs' : FileSystem} {c c' : Progress} {now renamed : List (String × List UInt8)}
    (front back : List Progress) (step : Progress.Step fs c now fs' c') :
    Step ⟨fs, front ++ c :: back, renamed⟩ ⟨fs', front ++ c' :: back, renamed ++ now⟩

/-- One world comes from another one by some steps. -/
abbrev Reaches : World → World → Prop := Relation.ReflTransGen Step

/-- Have all calls ended? -/
def Ended (w : World) : Prop := ∀ c ∈ w.calls, c = .renaming []

/-- The temporary files of the calls lie over the initial system with the renamed contents, and
nothing is renamed but what was asked for. -/
structure Sound (fs₀ : FileSystem) (requests : List Request) (w : World) : Prop where
  staged : StagedOver (fs₀.putFiles w.renamed) w.fs (w.calls.flatMap Progress.temporaries)
  accounted :
    (w.renamed ++ w.calls.flatMap Progress.pending).Perm (requests.flatMap Request.pairs)
  goals : ∀ file ∈ w.renamed, (fs₀.goal? file.1).isSome

end World

section
variable {base fs fs' fs₀ : FileSystem} {c c' : Progress} {now : List (String × List UInt8)}
  {others : List (Staged × List UInt8)} {requests : List Request} {w w' : World}

/-! ## What one step does -/

/-- A call still has to rename what it had before but for what the step renames. -/
theorem Progress.Step.pending_eq (h : Progress.Step fs c now fs' c') :
    c.pending = now ++ c'.pending := by
  cases h <;> simp [Progress.pending, ofWaiting]

/-- A step of a call renames files to goals only. -/
theorem Progress.Step.goals (h : Progress.Step fs c now fs' c')
    (hs : StagedOver base fs (c.temporaries ++ others)) :
    ∀ file ∈ now, (base.goal? file.1).isSome := by
  cases h with
  | create | write | finish | turn => nofun
  | rename hc =>
    obtain ⟨goal, hg, -⟩ := hs.of_commit_ok hc
    intro file hf
    rw [List.mem_singleton.1 hf, hg]
    rfl

/-- A step of a call changes nothing but its own temporary files and the goals of what it renames,
whatever other temporary files there are. -/
theorem Progress.Step.stagedOver (h : Progress.Step fs c now fs' c')
    (hs : StagedOver base fs (c.temporaries ++ others)) :
    StagedOver (base.putFiles now) fs' (c'.temporaries ++ others) := by
  cases h with
  | create hd =>
    obtain ⟨draw, directory, hp, -⟩ := hd.drawn
    exact (hs.add (s := ⟨_, _⟩) ⟨_, draw, directory, hp⟩ hd.free []).congr (.refl base)
      (.afterFills _ 1)
  | write piece => exact hs.rewrite _
  | finish => exact hs.perm ((List.perm_append_singleton _ _).symm.append_right others)
  | turn => exact hs
  | rename hc =>
    obtain ⟨goal, hg, hs'⟩ := hs.of_commit_ok hc
    simp only [FileSystem.putFiles, hg]
    exact hs'

/-! ## What any number of steps does -/

/-- What belongs to the calls, that of one of them first. -/
theorem flatMap_middle_perm {α : Type} (f : Progress → List α) (front back : List Progress)
    (c : Progress) :
    ((front ++ c :: back).flatMap f).Perm (f c ++ (front ++ back).flatMap f) :=
  List.perm_middle.flatMap_right f

/-- Calls that begin have the invariant. -/
theorem World.Sound.start (fs₀ : FileSystem) (requests : List Request) :
    (World.start fs₀ requests).Sound fs₀ requests where
  staged := by
    have hnone : (World.start fs₀ requests).calls.flatMap Progress.temporaries = [] := by
      simp [World.start, Request.start, Progress.temporaries]
    rw [hnone]
    exact .nil fs₀
  accounted := by
    simp [World.start, List.flatMap_map, Request.start, Progress.pending]
  goals := nofun

/-- A step of any of the calls keeps the invariant. -/
theorem World.Sound.step (h : w.Sound fs₀ requests) (hstep : World.Step w w') :
    w'.Sound fs₀ requests := by
  obtain @⟨fs, fs', c, c', now, renamed, front, back, hc⟩ := hstep
  have hs : StagedOver (fs₀.putFiles renamed) fs
      (c.temporaries ++ (front ++ back).flatMap Progress.temporaries) :=
    h.staged.perm (flatMap_middle_perm _ front back c)
  refine ⟨?_, ?_, fun file hf => ?_⟩
  · rw [FileSystem.putFiles_append]
    exact (hc.stagedOver hs).perm (flatMap_middle_perm _ front back c').symm
  · refine .trans ?_ h.accounted
    simp only [List.append_assoc]
    refine List.Perm.append_left renamed ?_
    -- what is renamed now is no longer pending for the call, and nothing else is moved
    calc now ++ (front ++ c' :: back).flatMap Progress.pending
      _ |>.Perm (now ++ (c'.pending ++ (front ++ back).flatMap Progress.pending)) :=
        (flatMap_middle_perm _ front back c').append_left now
      _ = c.pending ++ (front ++ back).flatMap Progress.pending := by
        rw [hc.pending_eq, List.append_assoc]
      _ |>.Perm ((front ++ c :: back).flatMap Progress.pending) :=
        (flatMap_middle_perm _ front back c).symm
  · rcases List.mem_append.1 hf with hf | hf
    · exact h.goals file hf
    · rw [FileSystem.goal?_congr (FileSystem.sameDirectories_putFiles renamed)]
      exact hc.goals hs file hf

/-- Every world that is reached has the invariant. -/
theorem World.Sound.reaches (h : World.Reaches (World.start fs₀ requests) w) :
    w.Sound fs₀ requests := by
  induction h with
  | refl => exact .start fs₀ requests
  | tail _ hstep ih => exact ih.step hstep

/-! ## A call by itself -/

/-- Writing a file is writing a list of one. -/
theorem writeAtomic_eq (path contents : String) :
    writeAtomic path contents = writeFiles [(path, contents)] := by
  funext fs
  simp only [writeAtomic, writeFiles, Effect.andThen, stageAll, stageAll.go]
  split
  · next staged fs₁ hs =>
    simp only [hs, List.reverse_singleton, commitAll, commitAll.go]
    split
    · next path fs₂ hc =>
      simp only [hc]
      rfl
    · next e fs₂ hc =>
      simp only [hc]
      rfl
  · next e fs₁ hs =>
    simp only [hs]
    rfl

section
variable {renamed : List (String × List UInt8)}

/-- One of the calls takes a step that renames nothing. -/
theorem World.Step.quiet (front back : List Progress) (h : Progress.Step fs c [] fs' c') :
    World.Step ⟨fs, front ++ c :: back, renamed⟩ ⟨fs', front ++ c' :: back, renamed⟩ := by
  have hstep : World.Step ⟨fs, front ++ c :: back, renamed⟩
      ⟨fs', front ++ c' :: back, renamed ++ []⟩ := .call front back h
  rwa [List.append_nil] at hstep

/-- Making a file and writing it in one piece takes three steps. -/
theorem reaches_of_draws {path : String} {place : Place} {contents : List UInt8}
    (hd : Draws fs path place) (hfill : fs.fillFault? contents = none)
    (waiting : List (Staged × List UInt8)) (rest : List (String × List UInt8))
    (front back : List Progress) :
    World.Reaches ⟨fs, front ++ .staging waiting ((path, contents) :: rest) :: back, renamed⟩
      ⟨(fs.put place (.file contents)).afterFills 1,
        front ++ .staging (waiting ++ [(⟨path, place⟩, contents)]) rest :: back, renamed⟩ := by
  have hcreate : World.Step
      ⟨fs, front ++ .staging waiting ((path, contents) :: rest) :: back, renamed⟩
      ⟨(fs.put place (.file [])).afterFills 1,
        front ++ .writing waiting ⟨path, place⟩ [] (contents ++ []) rest :: back, renamed⟩ := by
    rw [List.append_nil]
    exact .quiet front back (.create hd hfill)
  have hwrite : World.Step
      ⟨(fs.put place (.file [])).afterFills 1,
        front ++ .writing waiting ⟨path, place⟩ [] (contents ++ []) rest :: back, renamed⟩
      ⟨(fs.put place (.file contents)).afterFills 1,
        front ++ .writing waiting ⟨path, place⟩ contents [] rest :: back, renamed⟩ := by
    rw [← FileSystem.put_put fs place (.file []) (.file contents)]
    exact .quiet front back (.write contents)
  exact .tail (.tail (.single hcreate) hwrite) (.quiet front back .finish)

/-- Staging a list is a sequence of steps. -/
theorem reaches_of_stageAll_go {files : List (String × String)} {staged : List Staged}
    (renamed : List (String × List UInt8)) (waiting : List (Staged × List UInt8))
    (front back : List Progress)
    (h : stageAll.go (waiting.map (·.1)).reverse files fs = (.ok staged, fs')) :
    ∃ waiting', waiting'.map (·.1) = staged ∧
      waiting'.map ofWaiting = waiting.map ofWaiting ++ inBytes files ∧
      World.Reaches ⟨fs, front ++ .staging waiting (inBytes files) :: back, renamed⟩
        ⟨fs', front ++ .staging waiting' [] :: back, renamed⟩ := by
  induction files generalizing fs waiting with
  | nil =>
    rw [stageAll.go] at h
    cases h
    exact ⟨waiting, by simp, by simp [inBytes], .refl⟩
  | cons file rest ih =>
    obtain ⟨path, contents⟩ := file
    rw [stageAll.go] at h
    split at h
    · next s fs₁ hs =>
      obtain ⟨rfl, hd, hfill, rfl⟩ := of_stage_ok hs
      have hgo : stageAll.go ((waiting ++ [(s, Text.Utf8.bytes contents)]).map (·.1)).reverse rest
          ((fs.put s.place (.file (Text.Utf8.bytes contents))).afterFills 1) =
            (.ok staged, fs') := by
        simpa using h
      obtain ⟨waiting', hw, hpairs, hreach⟩ := ih _ hgo
      refine ⟨waiting', hw, ?_, (reaches_of_draws hd hfill waiting _ front back).trans hreach⟩
      rw [hpairs]
      simp [ofWaiting, inBytes]
    · cases h

/-- Committing a list is a sequence of steps. -/
theorem reaches_of_commitAll_go {waiting : List (Staged × List UInt8)} {committed : List String}
    (front back : List Progress)
    (h : commitAll.go committed (waiting.map (·.1)) fs = (.ok (), fs')) :
    World.Reaches ⟨fs, front ++ .renaming waiting :: back, renamed⟩
      ⟨fs', front ++ .renaming [] :: back, renamed ++ waiting.map ofWaiting⟩ := by
  induction waiting generalizing fs committed renamed with
  | nil =>
    rw [List.map_nil, commitAll.go] at h
    cases h
    simpa using Relation.ReflTransGen.refl
  | cons w rest ih =>
    rw [List.map_cons, commitAll.go] at h
    split at h
    · next path fs₁ hc =>
      have hstep : World.Step ⟨fs, front ++ .renaming (w :: rest) :: back, renamed⟩
          ⟨fs₁, front ++ .renaming rest :: back, renamed ++ [ofWaiting w]⟩ :=
        .call front back (.rename hc)
      have hrest : Relation.ReflTransGen World.Step
          ⟨fs₁, front ++ .renaming rest :: back, renamed ++ [ofWaiting w]⟩ _ := ih h
      rw [List.append_assoc] at hrest
      exact .head hstep hrest
    · cases h

/-- What a call does that succeeds while the others stand still is a sequence of steps to its end,
in which all of its files are renamed. -/
theorem reaches_of_effect {request : Request} (front back : List Progress)
    (h : request.effect fs = (.ok (), fs')) :
    World.Reaches ⟨fs, front ++ request.start :: back, renamed⟩
      ⟨fs', front ++ .renaming [] :: back, renamed ++ request.pairs⟩ := by
  obtain ⟨files, heffect, hpairs⟩ :
      ∃ files, request.effect = writeFiles files ∧ request.pairs = inBytes files := by
    cases request with
    | atomic path contents => exact ⟨_, writeAtomic_eq path contents, rfl⟩
    | batch files => exact ⟨files, rfl, rfl⟩
  rw [heffect, writeFiles, Effect.andThen] at h
  split at h
  · next staged fs₁ hs =>
    obtain ⟨waiting, rfl, hwaiting, hstage⟩ :=
      reaches_of_stageAll_go renamed [] front back hs
    rw [List.map_nil, List.nil_append] at hwaiting
    rw [Request.start, hpairs, ← hwaiting]
    rw [← hwaiting] at hstage
    exact (hstage.tail (.quiet front back .turn)).trans (reaches_of_commitAll_go front back h)
  · cases h

end

/-! ## What all calls leave -/

/-- A call that has ended has no temporary file and nothing to rename. -/
theorem World.Ended.flatMap_eq_nil {α : Type} {f : Progress → List α} (h : w.Ended)
    (hf : f (.renaming []) = []) : w.calls.flatMap f = [] := by
  rw [List.flatMap_eq_nil_iff]
  intro c hc
  rw [h c hc, hf]

/-- After all calls have ended just what they were asked to write was renamed. -/
theorem World.Sound.perm_of_ended (h : w.Sound fs₀ requests) (hended : w.Ended) :
    w.renamed.Perm (requests.flatMap Request.pairs) := by
  have hperm := h.accounted
  rwa [hended.flatMap_eq_nil (f := Progress.pending) rfl, List.append_nil] at hperm

/-- **What calls leave that write at the same time.** At every moment each path shows what was
renamed last to its goal, or what it showed at first, and everything that was renamed is the
complete contents that some call was given for the path. Once all calls have ended, each of their
paths shows such contents, and there are no temporary files but those of the initial system. A call
that begins while the others stand still, and succeeds, may go through all of its steps at once.
Reference: `write_atomic`, `write_files`. -/
theorem showsLast_of_reaches (h : World.Reaches (World.start fs₀ requests) w) :
    (∀ path, fs₀.ShowsLast w.fs w.renamed path) ∧
      (∀ file ∈ w.renamed, ∃ request ∈ requests, file ∈ request.pairs) ∧
      (w.Ended →
        (∀ request ∈ requests, ∀ file ∈ request.pairs,
          ∃ request' ∈ requests, ∃ file' ∈ request'.pairs,
            fs₀.SameGoal file'.1 file.1 ∧ w.fs.look? file.1 = some (.file file'.2)) ∧
        ∀ target draw directory, w.fs.get? (.temporary target draw :: directory) =
          fs₀.get? (.temporary target draw :: directory)) ∧
      ∀ front request back fs', w.calls = front ++ Request.start request :: back →
        request.effect w.fs = (.ok (), fs') →
          World.Reaches w ⟨fs', front ++ .renaming [] :: back, w.renamed ++ request.pairs⟩ := by
  have hsound : w.Sound fs₀ requests := .reaches h
  have hasked : ∀ file ∈ w.renamed, ∃ request ∈ requests, file ∈ request.pairs := fun file hf =>
    List.mem_flatMap.1 (hsound.accounted.mem_iff.1 (List.mem_append_left _ hf))
  refine ⟨hsound.staged.showsLast, hasked, fun hended => ⟨?_, fun target draw directory => ?_⟩,
    fun front request back fs' hcalls heffect => ?_⟩
  · intro request hr file hf
    have hrenamed : file ∈ w.renamed :=
      (hsound.perm_of_ended hended).mem_iff.2 (List.mem_flatMap.2 ⟨request, hr, hf⟩)
    obtain ⟨goal, hg⟩ := Option.isSome_iff_exists.1 (hsound.goals file hrenamed)
    cases hsound.staged.showsLast file.1 with
    | @written front back path contents split here _ shown =>
      obtain ⟨request', hr', hf'⟩ := hasked (path, contents) (by simp [split])
      exact ⟨request', hr', _, hf', here, shown⟩
    | unwritten hnone _ => exact absurd ⟨goal, hg, hg⟩ (hnone file hrenamed)
  · refine hsound.staged.get?_of_untouched ?_ fun file _ hg => ?_
    · rw [hended.flatMap_eq_nil rfl]
      nofun
    · obtain ⟨name, parent, he⟩ := FileSystem.goal?_named hg
      cases he
  · obtain ⟨fs, calls, renamed⟩ := w
    obtain rfl : calls = front ++ request.start :: back := hcalls
    exact reaches_of_effect front back heffect

end

/-- A file that waits in the root for the name `a`. -/
def waitingForA : Staged := ⟨"a", [.temporary (some "a") 0]⟩

/-- A call that writes `a`. -/
def writesA : Request := .batch [("a", "two")]

/-- One byte of three is in the file of a call that writes `a`, and another call is to begin. -/
def halfWritten : World where
  fs := (oneFile.put waitingForA.place (.file [])).put waitingForA.place
    (.file (Text.Utf8.bytes "o"))
  calls := [.writing [] waitingForA (Text.Utf8.bytes "o") (Text.Utf8.bytes "ne" ++ []) [],
    writesA.start]

/-- The system after the other call has gone through all of its steps. -/
def overtaken : FileSystem := (writesA.effect halfWritten.fs).2

/-- The system after the first call has written the rest of its file. -/
def caughtUp : FileSystem :=
  overtaken.put waitingForA.place (.file (Text.Utf8.bytes "o" ++ Text.Utf8.bytes "ne"))

/-- Two calls write one path. While the first has written part of its file, the second one goes
through all of its steps. Then the first call goes on, and the path shows what that wrote when both
have ended. -/
theorem showsLast_of_reaches_by_turns :
    ∃ w, World.Reaches (World.start oneFile [.atomic "a" "one", writesA]) w ∧ w.Ended ∧
      w.renamed = inBytes [("a", "two"), ("a", "one")] ∧
      w.fs.look? "a" = some (.file (Text.Utf8.bytes "one")) ∧
      (∀ path, oneFile.ShowsLast w.fs w.renamed path) := by
  have hhalf : World.Reaches (World.start oneFile [.atomic "a" "one", writesA]) halfWritten :=
    .tail (.single (.call [] [_] (.create ⟨rfl, ⟨0, [], rfl, rfl⟩, rfl⟩ rfl)))
      (.call [] [_] (.write (Text.Utf8.bytes "o")))
  obtain ⟨-, -, -, hovertakes⟩ := showsLast_of_reaches hhalf
  have htwo : World.Reaches (World.start oneFile [.atomic "a" "one", writesA]) _ :=
    hhalf.trans (hovertakes [_] writesA [] overtaken rfl (Prod.ext rfl rfl))
  have hwritten : World.Reaches (World.start oneFile [.atomic "a" "one", writesA])
      ⟨caughtUp, [.renaming [(waitingForA, Text.Utf8.bytes "o" ++ Text.Utf8.bytes "ne")],
        .renaming []], inBytes [("a", "two")]⟩ :=
    .tail (.tail (.tail htwo (.call [] [_] (.write (Text.Utf8.bytes "ne"))))
      (.call [] [_] .finish)) (.call [] [_] .turn)
  have hcommit : waitingForA.commit caughtUp = (.ok "a", (waitingForA.commit caughtUp).2) :=
    Prod.ext rfl rfl
  have hended : World.Reaches (World.start oneFile [.atomic "a" "one", writesA])
      ⟨(waitingForA.commit caughtUp).2, [.renaming [], .renaming []],
        inBytes [("a", "two"), ("a", "one")]⟩ :=
    .tail hwritten (.call [] [_] (.rename hcommit))
  obtain ⟨hshows, -, -, -⟩ := showsLast_of_reaches hended
  exact ⟨_, hended, by simp [World.Ended], rfl, rfl, hshows⟩

end ModuleBridge.Files
