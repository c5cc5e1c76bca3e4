import DataFeed.Foundation.Disk
import DataFeed.Foundation.Transition
import DataFeed.L2.FileWriter
import DataFeed.Venue.Symbol

/-! # Recorders that share a directory

File writers of different pairs open, write and close their recordings in one directory.
A recording is opened under its pair and its second whatever the directory has, and closed
under the first final name that is not taken when it is looked for. A pair's '/' is not in
its file names, so two pairs may have the same, and a pair that ends in a number may have
those of another. That no recording is lost rests on every name being vacant when a file
comes to have it (`Clear`).
-/

namespace DataFeed.Venue

open Foundation L2 DataFeed.Core

/-- What a recorder does next. -/
inductive Stage where
  | closed
  /-- Its file is open, under its stem. -/
  | opened (stem : String) (file : Nat)
  /-- Its file is closed, and it looks for a final name. -/
  | probing (stem : String) (file : Nat) (finish : Int64) (number : Nat)
  /-- The final name was free when it was looked for. -/
  | chosen (stem : String) (file : Nat) (target : String)
  /-- Its file could not be renamed. -/
  | failed
  deriving DecidableEq, Repr

/-- The stem and the file of a recording that is not renamed yet. -/
def Stage.held : Stage → Option (String × Nat)
  | .opened stem file | .probing stem file _ _ | .chosen stem file _ => some (stem, file)
  | .closed | .failed => none

variable {Writer : Type}

/-- Who has written a record: a stretch of a writer, or an earlier process. -/
abbrev Author (Writer : Type) := Option (Writer × Nat)

/-- The writers of a process, and their directory. -/
structure Recorders (Writer : Type) where
  disk : Disk (Author Writer × Message)
  stage : Writer → Stage
  /-- How many files each has opened. -/
  stretch : Writer → Nat

namespace Recorders

/-- A step of a writer's thread, or of its destructor. -/
inductive Action (Writer : Type) where
  | openFile (writer : Writer) (nowNs : Int64)
  | write (writer : Writer) (message : Message)
  /-- The stream is closed, and the clock is read for the final name. -/
  | close (writer : Writer) (nowSeconds : Int64)
  /-- Asks whether the next final name is taken. -/
  | probe (writer : Writer)
  | rename (writer : Writer)
  /-- The file keeps its name, and the writer its failure. -/
  | failRename (writer : Writer)
  deriving DecidableEq, Repr

/-- The pair, as every one of its file names starts with it. -/
def symbolStem (symbol : String) : String := String.ofList (symbol.toList.filter (· ≠ '/'))

/-- The name of an open file. -/
def openName (stem : String) : String := stem ++ ".bin"

variable [DecidableEq Writer]

/-- A writer is at another stage. -/
def setStage (state : Recorders Writer) (writer : Writer) (stage : Stage) : Recorders Writer :=
  { state with stage := Function.update state.stage writer stage }

/-- A writer opens a new recording. -/
def create (state : Recorders Writer) (writer : Writer) (stem : String) : Recorders Writer where
  disk := (state.disk.create (openName stem)).1
  stage := Function.update state.stage writer
    (.opened stem (state.disk.create (openName stem)).2)
  stretch := Function.update state.stretch writer (state.stretch writer + 1)

/-- A writer adds a message to its file. -/
def append (state : Recorders Writer) (writer : Writer) (file : Nat) (message : Message) :
    Recorders Writer :=
  { state with
    disk := state.disk.append file (some (writer, state.stretch writer), message) }

variable (symbol : Writer → String)

/-- The stem of a recording that a writer opens. -/
def stemAt (writer : Writer) (nowNs : Int64) : String :=
  FileWriter.openStem (symbolStem (symbol writer)) (nowNs / FileWriter.nanosPerSecond)

/-- What a step does, if it is possible. -/
def step (state : Recorders Writer) : Action Writer → Option (Recorders Writer)
  | .openFile writer nowNs =>
      if state.stage writer = .closed then
        some (state.create writer (stemAt symbol writer nowNs))
      else none
  | .write writer message =>
      match state.stage writer with
      | .opened _ file => some (state.append writer file message)
      | _ => none
  | .close writer nowSeconds =>
      match state.stage writer with
      | .opened stem file => some (state.setStage writer (.probing stem file nowSeconds 0))
      | _ => none
  | .probe writer =>
      match state.stage writer with
      | .probing stem file finish number =>
          if state.disk.holds (FileWriter.finalName stem finish number) then
            some (state.setStage writer (.probing stem file finish (number + 1)))
          else
            some (state.setStage writer
              (.chosen stem file (FileWriter.finalName stem finish number)))
      | _ => none
  | .rename writer =>
      match state.stage writer with
      | .chosen stem _ target =>
          match state.disk.rename (openName stem) target with
          | some disk => some { (state.setStage writer .closed) with disk := disk }
          | none => some (state.setStage writer .failed)
      | _ => none
  | .failRename writer =>
      match state.stage writer with
      | .chosen _ _ _ => some (state.setStage writer .failed)
      | _ => none

/-- Any writers in a directory that may have files of earlier processes. -/
def system (initial : Disk Message) : System (Recorders Writer) (Action Writer) where
  init :=
    { disk :=
        { entries := initial.entries
          records := fun file => (initial.records file).map fun record => (none, record)
          next := initial.next
          numbered := initial.numbered }
      stage := fun _ => .closed
      stretch := fun _ => 0 }
  step := step symbol

/-- A file has records of someone else. -/
def Foreign (state : Recorders Writer) (writer : Writer) (file : Nat) : Prop :=
  ∃ record ∈ state.disk.records file, record.1 ≠ some (writer, state.stretch writer)

/-- A file that has a name loses records. -/
def Truncates (state next : Recorders Writer) : Prop :=
  ∃ name file, state.disk.entries name = some file ∧
    ¬ state.disk.records file <+: next.disk.records file

/-- A record is added to those of another writer, stretch or process. -/
def Mixes (state next : Recorders Writer) : Prop :=
  ∃ file record, next.disk.records file = state.disk.records file ++ [record] ∧
    ∃ other ∈ state.disk.records file, other.1 ≠ record.1

/-- The name of a file with records comes to be another file's. -/
def Replaces (state next : Recorders Writer) : Prop :=
  ∃ name file other, state.disk.entries name = some file ∧ state.disk.records file ≠ [] ∧
    next.disk.entries name = some other ∧ other ≠ file

/-- What a step must not do to the directory. -/
def Harms (state next : Recorders Writer) : Prop :=
  state.Truncates next ∨ state.Mixes next ∨ state.Replaces next

/-- A file that has the name has no records, and no writer has still to rename it. -/
def Vacant (state : Recorders Writer) (name : String) : Prop :=
  ∀ file, state.disk.entries name = some file → state.disk.records file = [] ∧
    ∀ writer stem, (state.stage writer).held ≠ some (stem, file)

/-- The name that a step gives to a file, if it gives one, is vacant. -/
def Clear (state : Recorders Writer) : Action Writer → Prop
  | .openFile writer nowNs => state.Vacant (openName (stemAt symbol writer nowNs))
  | .rename writer => ∀ stem own target, state.stage writer = .chosen stem own target →
      state.Vacant target
  | .write _ _ | .close _ _ | .probe _ | .failRename _ => True

/-- Every recording that is not renamed yet has its name, is its writer's alone, and has
records of its stretch only. -/
structure Sound (state : Recorders Writer) : Prop where
  named : ∀ writer stem file, (state.stage writer).held = some (stem, file) →
    state.disk.entries (openName stem) = some file
  apart : ∀ first second stem other file, (state.stage first).held = some (stem, file) →
    (state.stage second).held = some (other, file) → first = second
  own : ∀ writer stem file, (state.stage writer).held = some (stem, file) →
    ¬ state.Foreign writer file

section Steps

variable {symbol : Writer → String} {state next : Recorders Writer} {writer : Writer}

/-- A recorder is in the stage it was put in. -/
theorem stage_setStage_self {stage : Stage} : (state.setStage writer stage).stage writer = stage :=
  Function.update_self ..

/-- The other recorders stay in their stages. -/
theorem stage_setStage_of_ne {stage : Stage} {other : Writer} (different : other ≠ writer) :
    (state.setStage writer stage).stage other = state.stage other :=
  Function.update_of_ne different ..

/-- A writer that goes on with its recording, or gives it up, leaves the others theirs. -/
theorem Sound.setStage (sound : state.Sound) {stage : Stage}
    (going : stage.held = (state.stage writer).held ∨ stage.held = none) :
    (state.setStage writer stage).Sound := by
  have held : ∀ other stem file,
      ((state.setStage writer stage).stage other).held = some (stem, file) →
        (state.stage other).held = some (stem, file) := by
    intro other stem file holds
    by_cases same : other = writer
    · subst same
      rw [stage_setStage_self] at holds
      rcases going with kept | given
      · rw [← kept, holds]
      · rw [given] at holds
        contradiction
    · rwa [stage_setStage_of_ne same] at holds
  refine ⟨?_, ?_, ?_⟩
  · exact fun other stem file holds => sound.named other stem file (held other stem file holds)
  · exact fun first second stem other file one two =>
      sound.apart first second stem other file (held _ _ _ one) (held _ _ _ two)
  · exact fun other stem file holds => sound.own other stem file (held other stem file holds)

/-- A recording that is opened under a vacant name is its writer's alone. -/
theorem Sound.create (sound : state.Sound) {stem : String}
    (vacant : state.Vacant (openName stem)) : (state.create writer stem).Sound := by
  have unheld : ∀ other used, (state.stage other).held ≠
      some (used, (state.disk.create (openName stem)).2) := by
    intro other used holds
    rcases Disk.create_eq state.disk (openName stem) with taken | ⟨_, new⟩
    · exact (vacant _ taken).2 other used holds
    · have old := state.disk.numbered _ _ (sound.named _ _ _ holds)
      exact absurd old (new ▸ Nat.lt_irrefl _)
  have self : (state.create writer stem).stage writer =
      .opened stem (state.disk.create (openName stem)).2 := Function.update_self ..
  have others : ∀ other, other ≠ writer →
      (state.create writer stem).stage other = state.stage other :=
    fun other different => Function.update_of_ne different ..
  refine ⟨fun other used file holds => ?_, fun first second used other file one two => ?_,
    fun other used file holds => ?_⟩
  · by_cases same : other = writer
    · rw [same, self] at holds
      obtain ⟨rfl, rfl⟩ := Prod.mk.inj (Option.some.inj holds)
      exact Disk.entries_create_self
    · rw [others other same] at holds
      have known := sound.named other used file holds
      have apart : openName used ≠ openName stem := by
        intro same
        rw [same] at known
        exact (vacant file known).2 other used holds
      exact (Disk.entries_create_of_ne apart).trans known
  · by_cases oneSame : first = writer
    · by_cases twoSame : second = writer
      · rw [oneSame, twoSame]
      · rw [oneSame, self] at one
        obtain ⟨_, rfl⟩ := Prod.mk.inj (Option.some.inj one)
        rw [others second twoSame] at two
        exact (unheld second other two).elim
    · rw [others first oneSame] at one
      by_cases twoSame : second = writer
      · rw [twoSame, self] at two
        obtain ⟨_, rfl⟩ := Prod.mk.inj (Option.some.inj two)
        exact (unheld first used one).elim
      · rw [others second twoSame] at two
        exact sound.apart first second used other file one two
  · rintro ⟨record, listed, foreign⟩
    by_cases same : other = writer
    · rw [same, self] at holds
      obtain ⟨_, rfl⟩ := Prod.mk.inj (Option.some.inj holds)
      rw [show (state.create writer stem).disk.records _ = [] from
        Disk.records_create_self] at listed
      exact List.not_mem_nil listed
    · rw [others other same] at holds
      have different : file ≠ (state.disk.create (openName stem)).2 := by
        rintro rfl
        exact unheld other used holds
      refine sound.own other used file holds ⟨record, ?_, ?_⟩
      · rwa [← Disk.records_create_of_ne different]
      · rwa [show (state.create writer stem).stretch other = state.stretch other from
          Function.update_of_ne same ..] at foreign

omit [DecidableEq Writer] in
/-- A message that is written is its stretch's. -/
theorem Sound.append (sound : state.Sound) {stem : String} {file : Nat} (message : Message)
    (opened : state.stage writer = .opened stem file) :
    (state.append writer file message).Sound := by
  have holds : (state.stage writer).held = some (stem, file) := by
    rw [opened]
    rfl
  refine ⟨sound.named, sound.apart, fun other used held theirs => ?_⟩
  rintro ⟨record, listed, foreign⟩
  by_cases same : held = file
  · rw [same] at theirs listed
    obtain rfl := sound.apart other writer used stem file theirs holds
    rw [show (state.append other file message).disk.records file = _ from
      Disk.records_append_self] at listed
    rcases List.mem_append.mp listed with old | new
    · exact sound.own other used file theirs ⟨record, old, foreign⟩
    · rw [List.mem_singleton.mp new] at foreign
      exact foreign rfl
  · rw [show (state.append writer file message).disk.records held = _ from
      Disk.records_append_of_ne same] at listed
    exact sound.own other used held theirs ⟨record, listed, foreign⟩

/-- A recording that gets a vacant name takes no other's. -/
theorem Sound.rename (sound : state.Sound) {stem target : String} {file : Nat}
    {disk : Disk (Author Writer × Message)}
    (chosen : state.stage writer = .chosen stem file target) (vacant : state.Vacant target)
    (renamed : state.disk.rename (openName stem) target = some disk) :
    Recorders.Sound { (state.setStage writer .closed) with disk := disk } := by
  have left := @Sound.setStage _ _ _ writer sound .closed (Or.inr rfl)
  have holds : (state.stage writer).held = some (stem, file) := by
    rw [chosen]
    rfl
  obtain ⟨moved, known, records, _, _⟩ := Disk.rename_eq_some renamed
  refine ⟨fun other used held theirs => ?_, left.apart, fun other used held theirs => ?_⟩
  · have before := left.named other used held theirs
    have different : other ≠ writer := by
      rintro rfl
      rw [stage_setStage_self] at theirs
      contradiction
    rw [stage_setStage_of_ne different] at theirs
    refine (Disk.entries_rename_of_ne renamed ?_ ?_).trans before
    · intro same
      rw [show (state.setStage writer .closed).disk.entries (openName used) =
        state.disk.entries (openName stem) by rw [same]; rfl, sound.named _ _ _ holds] at before
      obtain rfl := Option.some.inj before
      exact different (sound.apart other writer used stem file theirs holds)
    · intro same
      exact (vacant held (same ▸ before)).2 other used theirs
  · rintro ⟨record, listed, foreign⟩
    exact left.own other used held theirs ⟨record, records ▸ listed, foreign⟩

/-- **One step of a writer.** If the name it gives to a file is vacant, every recording
stays its writer's own. -/
theorem Sound.step {action : Action Writer} (sound : state.Sound)
    (clear : state.Clear symbol action) (stepped : step symbol state action = some next) :
    next.Sound := by
  cases action with
  | openFile writer nowNs =>
      simp only [Recorders.step] at stepped
      split at stepped
      · obtain rfl := Option.some.inj stepped
        exact sound.create clear
      · contradiction
  | write writer message =>
      simp only [Recorders.step] at stepped
      split at stepped
      · rename_i stem file opened
        obtain rfl := Option.some.inj stepped
        exact sound.append message opened
      · contradiction
  | close writer nowSeconds =>
      simp only [Recorders.step] at stepped
      split at stepped
      · rename_i stem file opened
        obtain rfl := Option.some.inj stepped
        exact sound.setStage (Or.inl (by rw [opened]; rfl))
      · contradiction
  | probe writer =>
      simp only [Recorders.step] at stepped
      split at stepped
      · rename_i stem file finish number probing
        split at stepped
        · obtain rfl := Option.some.inj stepped
          exact sound.setStage (Or.inl (by rw [probing]; rfl))
        · obtain rfl := Option.some.inj stepped
          exact sound.setStage (Or.inl (by rw [probing]; rfl))
      · contradiction
  | rename writer =>
      simp only [Recorders.step] at stepped
      split at stepped
      · rename_i stem file target chosen
        split at stepped
        · rename_i disk renamed
          obtain rfl := Option.some.inj stepped
          exact sound.rename chosen (clear stem file target chosen) renamed
        · obtain rfl := Option.some.inj stepped
          exact sound.setStage (Or.inr rfl)
      · contradiction
  | failRename writer =>
      simp only [Recorders.step] at stepped
      split at stepped
      · obtain rfl := Option.some.inj stepped
        exact sound.setStage (Or.inr rfl)
      · contradiction

/-- A step that gives no file a name and writes nothing. -/
def Action.Aside : Action Writer → Prop
  | .close _ _ | .probe _ | .failRename _ => True
  | .openFile _ _ | .write _ _ | .rename _ => False

/-- It leaves the directory as it is. -/
theorem disk_step {action : Action Writer} (aside : action.Aside)
    (stepped : step symbol state action = some next) : next.disk = state.disk := by
  cases action with
  | openFile | write | rename => exact aside.elim
  | close writer nowSeconds =>
      simp only [Recorders.step] at stepped
      split at stepped
      · obtain rfl := Option.some.inj stepped
        rfl
      · contradiction
  | probe writer =>
      simp only [Recorders.step] at stepped
      split at stepped
      · split at stepped
        · obtain rfl := Option.some.inj stepped
          rfl
        · obtain rfl := Option.some.inj stepped
          rfl
      · contradiction
  | failRename writer =>
      simp only [Recorders.step] at stepped
      split at stepped
      · obtain rfl := Option.some.inj stepped
        rfl
      · contradiction

/-- A step that gives a file a vacant name keeps every record. -/
theorem keeps_step {action : Action Writer} (clear : state.Clear symbol action)
    (stepped : step symbol state action = some next) : state.disk.Keeps next.disk := by
  by_cases aside : action.Aside
  · rw [disk_step aside stepped]
    exact Disk.Keeps.refl _
  cases action with
  | openFile writer nowNs =>
      simp only [Recorders.step] at stepped
      split at stepped
      · obtain rfl := Option.some.inj stepped
        exact Disk.keeps_create fun file taken => (clear file taken).1
      · contradiction
  | write writer message =>
      simp only [Recorders.step] at stepped
      split at stepped
      · obtain rfl := Option.some.inj stepped
        exact Disk.keeps_append
      · contradiction
  | rename writer =>
      simp only [Recorders.step] at stepped
      split at stepped
      · rename_i stem own target chosen
        split at stepped
        · rename_i disk renamed
          obtain rfl := Option.some.inj stepped
          exact Disk.keeps_rename renamed fun file taken =>
            (clear stem own target chosen file taken).1
        · obtain rfl := Option.some.inj stepped
          exact Disk.Keeps.refl _
      · contradiction
  | close | probe | failRename => exact (aside trivial).elim

omit [DecidableEq Writer] in
/-- A step that writes no record puts no record where another's lie. -/
theorem not_mixes_of_records (same : next.disk.records = state.disk.records) :
    ¬ state.Mixes next := by
  rintro ⟨file, record, grown, _⟩
  rw [same] at grown
  exact List.cons_ne_nil _ _ (List.self_eq_append_right.mp grown)

omit [DecidableEq Writer] in
/-- A step that leaves the names alone replaces no recording. -/
theorem not_replaces_of_entries (same : next.disk.entries = state.disk.entries) :
    ¬ state.Replaces next := by
  rintro ⟨name, file, other, known, _, taken, different⟩
  rw [same, known] at taken
  exact different (Option.some.inj taken).symm

omit [DecidableEq Writer] in
/-- A step that keeps every record truncates no file. -/
theorem not_truncates_of_keeps (keeps : state.disk.Keeps next.disk) : ¬ state.Truncates next := by
  rintro ⟨name, file, known, shorter⟩
  by_cases empty : state.disk.records file = []
  · rw [empty] at shorter
    exact shorter List.nil_prefix
  · exact shorter (keeps name file known empty).2

/-- A file that is opened gets no record yet. -/
theorem not_mixes_create {stem : String} : ¬ state.Mixes (state.create writer stem) := by
  rintro ⟨file, record, grown, _⟩
  by_cases same : file = (state.disk.create (openName stem)).2
  · rw [same, show (state.create writer stem).disk.records _ = [] from
      Disk.records_create_self] at grown
    exact List.append_ne_nil_of_right_ne_nil _ (List.cons_ne_nil _ _) grown.symm
  · rw [show (state.create writer stem).disk.records file = _ from
      Disk.records_create_of_ne same] at grown
    exact List.cons_ne_nil _ _ (List.self_eq_append_right.mp grown)

/-- The name under which a file is opened stays with the file that has it. -/
theorem not_replaces_create {stem : String} : ¬ state.Replaces (state.create writer stem) := by
  rintro ⟨name, file, other, known, _, taken, different⟩
  by_cases same : name = openName stem
  · subst same
    rcases Disk.create_eq state.disk (openName stem) with old | ⟨free, _⟩
    · rw [show (state.create writer stem).disk.entries (openName stem) = _ from
        Disk.entries_create_self, ← old, known] at taken
      exact different (Option.some.inj taken).symm
    · rw [free] at known
      contradiction
  · rw [show (state.create writer stem).disk.entries name = _ from
      Disk.entries_create_of_ne same, known] at taken
    exact different (Option.some.inj taken).symm

omit [DecidableEq Writer] in
/-- A writer adds to its own stretch's records. -/
theorem Sound.not_mixes_append (sound : state.Sound) {stem : String} {file : Nat}
    {message : Message} (opened : state.stage writer = .opened stem file) :
    ¬ state.Mixes (state.append writer file message) := by
  rintro ⟨held, record, grown, other, listed, foreign⟩
  by_cases same : held = file
  · subst same
    rw [show (state.append writer held message).disk.records held = _ from
      Disk.records_append_self] at grown
    obtain rfl := List.singleton_inj.mp (List.append_cancel_left grown)
    exact sound.own writer stem held (by rw [opened]; rfl) ⟨other, listed, foreign⟩
  · rw [show (state.append writer file message).disk.records held = _ from
      Disk.records_append_of_ne same] at grown
    exact List.cons_ne_nil _ _ (List.self_eq_append_right.mp grown)

/-- A file that gets a vacant name takes no other's. -/
theorem not_replaces_rename {stem target : String} {disk : Disk (Author Writer × Message)}
    {stage : Stage} (vacant : state.Vacant target)
    (renamed : state.disk.rename (openName stem) target = some disk) :
    ¬ state.Replaces { (state.setStage writer stage) with disk := disk } := by
  rintro ⟨name, file, other, known, recorded, taken, different⟩
  obtain ⟨moved, _, _, _, ⟨_, rfl⟩ | ⟨_, entries⟩⟩ := Disk.rename_eq_some renamed
  · rw [known] at taken
    exact different (Option.some.inj taken).symm
  · rw [show disk.entries name = _ from entries name] at taken
    split at taken
    · rename_i here
      exact recorded (vacant file (here ▸ known)).1
    · split at taken
      · contradiction
      · rw [known] at taken
        exact different (Option.some.inj taken).symm

/-- A step that gives a file a vacant name does no harm. -/
theorem Sound.harmless {action : Action Writer} (sound : state.Sound)
    (clear : state.Clear symbol action)
    (stepped : Recorders.step symbol state action = some next) :
    ¬ state.Harms next := by
  have keeps := not_truncates_of_keeps (keeps_step clear stepped)
  suffices ¬ state.Mixes next ∧ ¬ state.Replaces next by
    rintro (truncates | mixes | replaces)
    · exact keeps truncates
    · exact this.1 mixes
    · exact this.2 replaces
  by_cases aside : action.Aside
  · have same := disk_step aside stepped
    exact ⟨not_mixes_of_records (congrArg Disk.records same),
      not_replaces_of_entries (congrArg Disk.entries same)⟩
  cases action with
  | openFile writer nowNs =>
      simp only [Recorders.step] at stepped
      split at stepped
      · obtain rfl := Option.some.inj stepped
        exact ⟨not_mixes_create, not_replaces_create⟩
      · contradiction
  | write writer message =>
      simp only [Recorders.step] at stepped
      split at stepped
      · rename_i stem file opened
        obtain rfl := Option.some.inj stepped
        exact ⟨sound.not_mixes_append opened, not_replaces_of_entries rfl⟩
      · contradiction
  | rename writer =>
      simp only [Recorders.step] at stepped
      split at stepped
      · rename_i stem own target chosen
        split at stepped
        · rename_i disk renamed
          obtain rfl := Option.some.inj stepped
          obtain ⟨_, _, records, _⟩ := Disk.rename_eq_some renamed
          exact ⟨not_mixes_of_records records,
            not_replaces_rename (clear stem own target chosen) renamed⟩
        · obtain rfl := Option.some.inj stepped
          exact ⟨not_mixes_of_records rfl, not_replaces_of_entries rfl⟩
      · contradiction
  | close | probe | failRename => exact (aside trivial).elim

end Steps

/-! ## Runs -/

variable {symbol : Writer → String} {initial : Disk Message}

/-- Every name that the run gives to a file is vacant then. -/
def ClearRun (symbol : Writer → String) (initial : Disk Message) (actions : List (Action Writer)) :
    Prop :=
  ∀ before action after state, actions = before ++ action :: after →
    (system symbol initial).run before = some state → state.Clear symbol action

/-- Before the first step no recorder has a file. -/
theorem sound_init : (system symbol initial).init.Sound :=
  ⟨fun _ _ _ holds => by contradiction, fun _ _ _ _ _ holds => by contradiction,
    fun _ _ _ holds => by contradiction⟩

/-- Along a clear run the recorders' files are sound. -/
theorem sound_of_clearRun {actions : List (Action Writer)} {state : Recorders Writer}
    (clear : ClearRun symbol initial actions)
    (reached : (system symbol initial).run actions = some state) : state.Sound :=
  System.Throughout.invariant clear sound_init
    (fun _ _ _ clear sound stepped => sound.step clear stepped) reached

/-- What is recorded at some point of a run is there at its end. -/
theorem keeps_of_clearRun {before after : List (Action Writer)}
    {state final : Recorders Writer} (clear : ClearRun symbol initial (before ++ after))
    (reached : (system symbol initial).run before = some state)
    (ended : (system symbol initial).run (before ++ after) = some final) :
    state.disk.Keeps final.disk := by
  induction after using List.reverseRecOn generalizing final with
  | nil =>
      rw [List.append_nil, reached] at ended
      obtain rfl := Option.some.inj ended
      exact Disk.Keeps.refl _
  | append_singleton after action ih =>
      rw [← List.append_assoc, System.run, System.runFrom_concat] at ended
      obtain ⟨middle, most, stepped⟩ := Option.bind_eq_some_iff.mp ended
      have last : middle.Clear symbol action :=
        clear (before ++ after) action [] middle (by rw [List.append_assoc]) most
      refine (ih ?_ most).trans (keeps_step last stepped)
      intro first other rest state' same
      exact clear first other (rest ++ [action]) state' (by
        rw [← List.append_assoc, same, List.append_assoc, List.cons_append])

/-! ## Writers whose names are apart -/

/-- How the file names of a writer's recordings begin. -/
def lead (symbol : Writer → String) (writer : Writer) : List Char :=
  (symbolStem (symbol writer) ++ "-").toList

/-- No writer's file names begin as another's do. -/
def Apart (symbol : Writer → String) : Prop :=
  ∀ first second, first ≠ second → ¬ lead symbol first <+: lead symbol second

/-- The directory has no file with the name of an open recording of a writer, as a killed
process or a failed rename leaves one. -/
def Unused (symbol : Writer → String) (initial : Disk Message) : Prop :=
  ∀ writer start,
    initial.entries (openName (FileWriter.openStem (symbolStem (symbol writer)) start)) = none

omit [DecidableEq Writer] in
/-- The name a recording is open under begins with its recorder's lead. -/
theorem lead_openName (writer : Writer) (start : Int64) :
    lead symbol writer <+:
      (openName (FileWriter.openStem (symbolStem (symbol writer)) start)).toList := by
  refine ⟨(toString start ++ ".bin").toList, ?_⟩
  simp only [lead, openName, FileWriter.openStem, String.toList_append, List.append_assoc]

omit [DecidableEq Writer] in
/-- The name a recording is kept under begins with its recorder's lead. -/
theorem lead_finalName (writer : Writer) (start finish : Int64) (number : Nat) :
    lead symbol writer <+:
      (FileWriter.finalName (FileWriter.openStem (symbolStem (symbol writer)) start) finish
        number).toList := by
  obtain ⟨rest, name⟩ := FileWriter.finalName_prefix
    (FileWriter.openStem (symbolStem (symbol writer)) start) finish number
  refine ⟨(toString start ++ ("-" ++ rest)).toList, ?_⟩
  rw [name]
  simp only [lead, FileWriter.openStem, String.toList_append, List.append_assoc]

omit [DecidableEq Writer] in
/-- Names of different writers are different. -/
theorem Apart.names (apart : Apart symbol) {first second : Writer} {name : String}
    (one : lead symbol first <+: name.toList) (two : lead symbol second <+: name.toList) :
    first = second := by
  by_contra different
  rcases List.prefix_or_prefix_of_prefix one two with within | within
  · exact apart first second different within
  · exact apart second first (Ne.symm different) within

/-- The name of a file is a writer's: a final name, that of the recording it has not
renamed yet, or of the one it could not rename. -/
def NameOf (symbol : Writer → String) (state : Recorders Writer) (writer : Writer)
    (name : String) : Prop :=
  (∃ start finish number, name = FileWriter.finalName
    (FileWriter.openStem (symbolStem (symbol writer)) start) finish number) ∨
  (∃ start, name = openName (FileWriter.openStem (symbolStem (symbol writer)) start)) ∧
    ((∃ stem file, (state.stage writer).held = some (stem, file) ∧ name = openName stem) ∨
      state.stage writer = .failed)

/-- Every file is an earlier one or has a name of one of the writers, and the name that a
writer has chosen is still free. -/
structure Spaced (symbol : Writer → String) (initial : Disk Message) (state : Recorders Writer) :
    Prop where
  names : ∀ name file, state.disk.entries name = some file →
    initial.entries name ≠ none ∨ ∃ writer, NameOf symbol state writer name
  stems : ∀ writer stem file, (state.stage writer).held = some (stem, file) →
    ∃ start, stem = FileWriter.openStem (symbolStem (symbol writer)) start
  chosen : ∀ writer stem file target, state.stage writer = .chosen stem file target →
    state.disk.entries target = none ∧ ∃ start finish number, target = FileWriter.finalName
      (FileWriter.openStem (symbolStem (symbol writer)) start) finish number

omit [DecidableEq Writer] in
/-- Every name of a recorder begins with its lead. -/
theorem NameOf.lead {state : Recorders Writer} {writer : Writer} {name : String}
    (named : NameOf symbol state writer name) : lead symbol writer <+: name.toList := by
  rcases named with ⟨start, finish, number, rfl⟩ | ⟨⟨start, rfl⟩, _⟩
  · exact lead_finalName writer start finish number
  · exact lead_openName writer start

omit [DecidableEq Writer] in
/-- A writer without a recording opens one under a free name. -/
theorem Spaced.free {state : Recorders Writer} {writer : Writer}
    (spaced : Spaced symbol initial state) (apart : Apart symbol) (unused : Unused symbol initial)
    (closed : state.stage writer = .closed) (nowNs : Int64) :
    state.disk.entries (openName (stemAt symbol writer nowNs)) = none := by
  cases known : state.disk.entries (openName (stemAt symbol writer nowNs)) with
  | none => rfl
  | some file =>
      rcases spaced.names _ file known with old | ⟨other, named⟩
      · exact (old (unused writer _)).elim
      · obtain rfl := apart.names (lead_openName writer _) named.lead
        rcases named with ⟨start, finish, number, name⟩ | ⟨_, ⟨stem, held, holds, _⟩ | failed⟩
        · exact (FileWriter.finalName_ne_open _ start finish _ number name.symm).elim
        · rw [closed] at holds
          contradiction
        · rw [closed] at failed
          contradiction

/-- Writers whose names are apart only give vacant names. -/
theorem Spaced.clear {state next : Recorders Writer} {action : Action Writer}
    (spaced : Spaced symbol initial state) (apart : Apart symbol) (unused : Unused symbol initial)
    (stepped : step symbol state action = some next) : state.Clear symbol action := by
  cases action with
  | openFile writer nowNs =>
      simp only [Recorders.step] at stepped
      split at stepped
      · rename_i closed
        intro file taken
        have free := spaced.free apart unused closed nowNs
        rw [taken] at free
        contradiction
      · contradiction
  | rename writer =>
      intro stem own target chosen file taken
      obtain ⟨free, _⟩ := spaced.chosen writer stem own target chosen
      rw [taken] at free
      contradiction
  | write | close | probe | failRename => trivial

section Spacing

variable {state next : Recorders Writer} {writer : Writer}

omit [DecidableEq Writer] in
/-- A name stays a writer's while the writer goes on with its recording, or gives it up. -/
theorem NameOf.mono {other : Recorders Writer} {name : String}
    (named : NameOf symbol state writer name)
    (going : (other.stage writer).held = (state.stage writer).held ∧
        (state.stage writer = .failed → other.stage writer = .failed) ∨
      other.stage writer = .failed) : NameOf symbol other writer name := by
  rcases named with final | ⟨spelled, holder⟩
  · exact Or.inl final
  · refine Or.inr ⟨spelled, ?_⟩
    rcases going with ⟨same, still⟩ | failed
    · rcases holder with ⟨stem, file, holds, name⟩ | failed
      · exact Or.inl ⟨stem, file, same ▸ holds, name⟩
      · exact Or.inr (still failed)
    · exact Or.inr failed

/-- A recorder may change its stage as long as it keeps its file or fails. -/
theorem Spaced.setStage (spaced : Spaced symbol initial state) {stage : Stage}
    (going : stage.held = (state.stage writer).held ∧ state.stage writer ≠ .failed ∨
      stage = .failed)
    (target : ∀ stem file target, stage = .chosen stem file target →
      state.disk.entries target = none ∧ ∃ start finish number, target = FileWriter.finalName
        (FileWriter.openStem (symbolStem (symbol writer)) start) finish number) :
    Spaced symbol initial (state.setStage writer stage) := by
  refine ⟨fun name file listed => ?_, fun other stem file holds => ?_,
    fun other stem file name chosen => ?_⟩
  · rcases spaced.names name file listed with old | ⟨other, named⟩
    · exact Or.inl old
    · refine Or.inr ⟨other, named.mono ?_⟩
      by_cases same : other = writer
      · rw [same, stage_setStage_self]
        rcases going with ⟨kept, alive⟩ | failed
        · exact Or.inl ⟨kept, fun failed => (alive failed).elim⟩
        · exact Or.inr failed
      · rw [stage_setStage_of_ne same]
        exact Or.inl ⟨rfl, fun failed => failed⟩
  · by_cases same : other = writer
    · subst same
      rw [stage_setStage_self] at holds
      rcases going with ⟨kept, _⟩ | rfl
      · exact spaced.stems other stem file (kept ▸ holds)
      · contradiction
    · rw [stage_setStage_of_ne same] at holds
      exact spaced.stems other stem file holds
  · by_cases same : other = writer
    · subst same
      rw [stage_setStage_self] at chosen
      exact target stem file name chosen
    · rw [stage_setStage_of_ne same] at chosen
      exact spaced.chosen other stem file name chosen

/-- A recorder that opens a file takes a name none of the others can have. -/
theorem Spaced.create (spaced : Spaced symbol initial state) (apart : Apart symbol)
    (nowNs : Int64) (closed : state.stage writer = .closed) :
    Spaced symbol initial (state.create writer (stemAt symbol writer nowNs)) := by
  have self : (state.create writer (stemAt symbol writer nowNs)).stage writer =
      .opened (stemAt symbol writer nowNs)
        (state.disk.create (openName (stemAt symbol writer nowNs))).2 := Function.update_self ..
  have others : ∀ other, other ≠ writer →
      (state.create writer (stemAt symbol writer nowNs)).stage other = state.stage other :=
    fun other different => Function.update_of_ne different ..
  refine ⟨fun name file listed => ?_, fun other stem file holds => ?_,
    fun other stem file name chosen => ?_⟩
  · by_cases here : name = openName (stemAt symbol writer nowNs)
    · rw [here]
      exact Or.inr ⟨writer, Or.inr ⟨⟨_, rfl⟩, Or.inl ⟨_, _, by rw [self]; rfl, rfl⟩⟩⟩
    · have old : state.disk.entries name = some file :=
        (Disk.entries_create_of_ne here).symm.trans listed
      rcases spaced.names name file old with earlier | ⟨other, named⟩
      · exact Or.inl earlier
      · refine Or.inr ⟨other, ?_⟩
        by_cases same : other = writer
        · subst same
          rcases named with final | ⟨_, ⟨_, _, holds, _⟩ | failed⟩
          · exact Or.inl final
          · rw [closed] at holds
            contradiction
          · rw [closed] at failed
            contradiction
        · apply named.mono
          rw [others other same]
          exact Or.inl ⟨rfl, fun failed => failed⟩
  · by_cases same : other = writer
    · subst same
      rw [self] at holds
      obtain ⟨rfl, _⟩ := Prod.mk.inj (Option.some.inj holds)
      exact ⟨_, rfl⟩
    · rw [others other same] at holds
      exact spaced.stems other stem file holds
  · by_cases same : other = writer
    · subst same
      rw [self] at chosen
      contradiction
    · rw [others other same] at chosen
      obtain ⟨free, start, finish, number, rfl⟩ := spaced.chosen other stem file name chosen
      refine ⟨(Disk.entries_create_of_ne fun here => ?_).trans free, start, finish, number, rfl⟩
      exact same (apart.names (here ▸ lead_finalName other start finish number)
        (lead_openName writer _))

/-- A recorder that renames its file takes a vacant name none of the others can have. -/
theorem Spaced.rename (spaced : Spaced symbol initial state) (apart : Apart symbol)
    {stem target : String} {file : Nat} {disk : Disk (Author Writer × Message)}
    (chosen : state.stage writer = .chosen stem file target)
    (renamed : state.disk.rename (openName stem) target = some disk) :
    Spaced symbol initial { (state.setStage writer .closed) with disk := disk } := by
  obtain ⟨free, start, finish, number, final⟩ := spaced.chosen writer stem file target chosen
  obtain ⟨moved, known, _, _, ⟨taken, _⟩ | ⟨_, entries⟩⟩ := Disk.rename_eq_some renamed
  · rw [free] at taken
    contradiction
  refine ⟨fun name other listed => ?_, fun other used held holds => ?_,
    fun other used held name chosenOther => ?_⟩
  · rw [show disk.entries name = _ from entries name] at listed
    split at listed
    · rename_i here
      exact Or.inr ⟨writer, Or.inl ⟨start, finish, number, here.trans final⟩⟩
    · split at listed
      · contradiction
      · rename_i notSource
        rcases spaced.names name other listed with earlier | ⟨owner, named⟩
        · exact Or.inl earlier
        · refine Or.inr ⟨owner, ?_⟩
          by_cases same : owner = writer
          · subst same
            rcases named with final | ⟨_, ⟨held, _, holds, name⟩ | failed⟩
            · exact Or.inl final
            · rw [chosen] at holds
              obtain ⟨rfl, _⟩ := Prod.mk.inj (Option.some.inj holds)
              exact (notSource name).elim
            · rw [chosen] at failed
              contradiction
          · apply named.mono
            rw [show Recorders.stage _ owner = state.stage owner from stage_setStage_of_ne same]
            exact Or.inl ⟨rfl, fun failed => failed⟩
  · by_cases same : other = writer
    · subst same
      rw [show Recorders.stage _ other = .closed from stage_setStage_self] at holds
      contradiction
    · rw [show Recorders.stage _ other = state.stage other from stage_setStage_of_ne same] at holds
      exact spaced.stems other used held holds
  · by_cases same : other = writer
    · subst same
      rw [show Recorders.stage _ other = .closed from stage_setStage_self] at chosenOther
      contradiction
    · rw [show Recorders.stage _ other = state.stage other from stage_setStage_of_ne same]
        at chosenOther
      obtain ⟨unused, first, last, count, rfl⟩ := spaced.chosen other used held name chosenOther
      refine ⟨?_, first, last, count, rfl⟩
      rw [show disk.entries _ = _ from entries _]
      split
      · rename_i here
        exact (same (apart.names (lead_finalName other first last count)
          (here.trans final ▸ lead_finalName writer start finish number))).elim
      · split
        · rfl
        · exact unused

/-- **One step of a writer whose names are its own.** -/
theorem Spaced.step {action : Action Writer} (spaced : Spaced symbol initial state)
    (apart : Apart symbol) (stepped : step symbol state action = some next) :
    Spaced symbol initial next := by
  cases action with
  | openFile writer nowNs =>
      simp only [Recorders.step] at stepped
      split at stepped
      · rename_i closed
        obtain rfl := Option.some.inj stepped
        exact spaced.create apart nowNs closed
      · contradiction
  | write writer message =>
      simp only [Recorders.step] at stepped
      split at stepped
      · obtain rfl := Option.some.inj stepped
        exact ⟨spaced.names, spaced.stems, spaced.chosen⟩
      · contradiction
  | close writer nowSeconds =>
      simp only [Recorders.step] at stepped
      split at stepped
      · rename_i stem file opened
        obtain rfl := Option.some.inj stepped
        refine spaced.setStage (Or.inl ⟨by rw [opened]; rfl, ?_⟩) fun _ _ _ chosen => ?_
        · rw [opened]
          exact fun same => by cases same
        · cases chosen
      · contradiction
  | probe writer =>
      simp only [Recorders.step] at stepped
      split at stepped
      · rename_i stem file finish number probing
        have alive : state.stage writer ≠ .failed := by
          rw [probing]
          exact fun same => by cases same
        split at stepped
        · obtain rfl := Option.some.inj stepped
          refine spaced.setStage (Or.inl ⟨by rw [probing]; rfl, alive⟩) fun _ _ _ chosen => ?_
          cases chosen
        · rename_i free
          obtain rfl := Option.some.inj stepped
          refine spaced.setStage (Or.inl ⟨by rw [probing]; rfl, alive⟩) fun _ _ _ chosen => ?_
          obtain ⟨start, rfl⟩ := spaced.stems writer stem file (by rw [probing]; rfl)
          obtain ⟨_, _, rfl⟩ := Stage.chosen.inj chosen
          refine ⟨?_, start, finish, number, rfl⟩
          rw [Disk.holds, Bool.not_eq_true, Option.isSome_eq_false_iff, Option.isNone_iff_eq_none]
            at free
          exact free
      · contradiction
  | rename writer =>
      simp only [Recorders.step] at stepped
      split at stepped
      · rename_i stem file target chosen
        split at stepped
        · rename_i disk renamed
          obtain rfl := Option.some.inj stepped
          exact spaced.rename apart chosen renamed
        · obtain rfl := Option.some.inj stepped
          exact spaced.setStage (Or.inr rfl) fun _ _ _ chosen => by cases chosen
      · contradiction
  | failRename writer =>
      simp only [Recorders.step] at stepped
      split at stepped
      · obtain rfl := Option.some.inj stepped
        exact spaced.setStage (Or.inr rfl) fun _ _ _ chosen => by cases chosen
      · contradiction

end Spacing

/-- Writers whose names are apart give vacant names in every run. -/
theorem clearRun_of_apart (apart : Apart symbol) (unused : Unused symbol initial)
    {actions : List (Action Writer)} {state : Recorders Writer}
    (reached : (system symbol initial).run actions = some state) :
    ClearRun symbol initial actions := by
  intro before action after middle same earlier
  have spaced : Spaced symbol initial middle := by
    refine System.Reachable.invariant ⟨before, earlier⟩ ?_ fun _ _ _ spaced stepped =>
      spaced.step apart stepped
    refine ⟨fun name file listed => Or.inl ?_, fun _ _ _ holds => by contradiction,
      fun _ _ _ _ chosen => by contradiction⟩
    rw [show initial.entries name = some file from listed]
    exact Option.some_ne_none file
  rw [same, System.run_append, earlier, Option.bind_some] at reached
  obtain ⟨next, stepped, _⟩ := Option.bind_eq_some_iff.mp reached
  exact spaced.clear apart unused stepped

/-- **When no recording is lost.** In a run in which every name that a file is given is
vacant, no step truncates, mixes or replaces a recording, and what is recorded stays. The
names are vacant in every run of writers whose names are apart, in a directory without
files under the names of their open recordings. -/
theorem recordings_kept {actions : List (Action Writer)} {final : Recorders Writer}
    (reached : (system symbol initial).run actions = some final) :
    (ClearRun symbol initial actions → ∀ before action after state next,
      actions = before ++ action :: after → (system symbol initial).run before = some state →
        step symbol state action = some next →
          ¬ state.Harms next ∧ state.disk.Keeps final.disk) ∧
    (Apart symbol → Unused symbol initial → ClearRun symbol initial actions) := by
  refine ⟨fun clear before action after state next same earlier stepped => ?_,
    fun apart unused => clearRun_of_apart apart unused reached⟩
  have past : ClearRun symbol initial before := System.Throughout.of_append (same ▸ clear)
  refine ⟨(sound_of_clearRun past earlier).harmless
    (clear before action after state same earlier) stepped, ?_⟩
  subst same
  exact keeps_of_clearRun clear earlier reached

/-- An empty directory. -/
def emptyDisk : Disk Message where
  entries _ := none
  records _ := []
  next := 0
  numbered _ _ listed := by contradiction

/-- Two pairs that only differ in the '/'. -/
def slashed : Bool → String
  | true => "BTC/USD"
  | false => "BTCUSD"

/-- The second opens its recording in the second in which the first has opened its own. -/
def sameSecond : List (Action Bool) :=
  [.openFile true 1000000000, .write true ⟨.snapshot, 0, 0, 0, "BTC/USD", [], []⟩]

/-- Two pairs whose names are apart. -/
def unlike : Bool → String
  | true => "BTC/USD"
  | false => "ETH/USD"

/-- Both open and write a recording in one second, and one is closed. -/
def bothRecord : List (Action Bool) :=
  [.openFile true 1000000000, .openFile false 1000000000,
    .write true ⟨.snapshot, 0, 0, 0, "BTC/USD", [], []⟩,
    .write false ⟨.snapshot, 0, 0, 0, "ETH/USD", [], []⟩, .close true 2, .probe true, .rename true]

/-- Neither harms the other. -/
theorem recordings_kept_two :
    ∃ final, (system unlike emptyDisk).run bothRecord = some final ∧
      ∀ before action after state next, bothRecord = before ++ action :: after →
        (system unlike emptyDisk).run before = some state →
          step unlike state action = some next →
            ¬ state.Harms next ∧ state.disk.Keeps final.disk := by
  have runs : ((system unlike emptyDisk).run bothRecord).isSome = true := by
    decide +kernel
  obtain ⟨final, reached⟩ := Option.isSome_iff_exists.mp runs
  have apart : Apart unlike := by
    unfold Apart
    decide +kernel
  have kept := recordings_kept reached
  exact ⟨final, reached, kept.1 (kept.2 apart fun _ _ => rfl)⟩

/-- Of two pairs that only differ in the '/', one truncates the recording of the other. -/
theorem truncates_another :
    ¬ ∀ (symbol : Bool → String) initial actions (final : Recorders Bool),
      Function.Injective symbol → (∀ writer, Kraken.checkSymbol (symbol writer) = .ok ()) →
        (system symbol initial).run actions = some final →
          ∀ before action after state next, actions = before ++ action :: after →
            (system symbol initial).run before = some state →
              step symbol state action = some next → ¬ state.Harms next := by
  intro harmless
  have runs : ((system slashed emptyDisk).run
      (sameSecond ++ [.openFile false 1000000000])).isSome = true := by
    decide +kernel
  have first : ((system slashed emptyDisk).run sameSecond).any (fun state =>
      (step slashed state (.openFile false 1000000000)).any fun next =>
        (state.disk.entries (openName (stemAt slashed false 1000000000))).any fun file =>
          !(state.disk.records file).isEmpty && (next.disk.records file).isEmpty) = true := by
    decide +kernel
  obtain ⟨final, reached⟩ := Option.isSome_iff_exists.mp runs
  obtain ⟨state, earlier, rest⟩ := (Option.any_eq_true _ _).mp first
  obtain ⟨next, stepped, harm⟩ := (Option.any_eq_true _ _).mp rest
  obtain ⟨file, taken, seen⟩ := (Option.any_eq_true _ _).mp harm
  obtain ⟨recorded, emptied⟩ := Bool.and_eq_true_iff.mp seen
  refine harmless slashed emptyDisk _ final ?_ ?_ reached sameSecond (.openFile false 1000000000)
    [] state next rfl earlier stepped (Or.inl ⟨_, file, taken, fun kept => ?_⟩)
  · decide +kernel
  · decide +kernel
  · rw [List.isEmpty_iff.mp emptied, List.prefix_nil] at kept
    rw [kept] at recorded
    contradiction

end Recorders

end DataFeed.Venue
