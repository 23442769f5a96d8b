import CodeMigrator.Runtime.ProjectMigration

/-!
# The writes of a project migration

One rule for each primitive of a migration: which worlds an invariant has to survive, so that
the primitive keeps it. The rules are for any invariant; what a migration promises is proved
over them.
-/

namespace CodeMigrator
open Lib

theorem FileTree.openParent_error {createMissing : Bool} {way : List String} {error : PathError} :
    ∀ {tree after : FileTree}, openParent createMissing tree way = (after, .error error) →
      error = .notFound := by
  induction way with
  | nil =>
    intro tree after refused
    cases refused
  | cons directory way ih =>
    intro tree after refused
    unfold openParent at refused
    split at refused
    · exact ih refused
    split at refused
    · cases refused
      rfl
    split at refused
    · cases refused
      rfl
    · exact ih refused

theorem FileTree.readAll_ok {tree : FileTree} {path : String} {content : ByteArray}
    (read : tree.readAll path = .ok content) : tree.files.get? path = some content := by
  unfold readAll readBytes at read
  split at read
  · cases read
  split at read
  · cases read
  split at read
  · cases read
  split at read
  · cases read
  next data found =>
  split at read
  · cases read
  · rw [found, Except.ok.inj read]

namespace ProjectMigrationRunner
open Lib.Process

/-- An atomic write leaves the files as they are, untold, or places the one of its path and
tells it; it succeeds only when it places it. -/
theorem writeAtomic_told (tree : FileTree) (path : String) (content : ByteArray) (fault : IoFault)
    (event : ProjectEvent) :
    ((tree.writeAtomic path content fault).1.files = tree.files ∧
        told event fault (tree.writeAtomic path content fault).2 = [] ∧
        (tree.writeAtomic path content fault).2 ≠ .ok ()) ∨
      ((tree.writeAtomic path content fault).1.files = tree.files.set path content ∧
        told event fault (tree.writeAtomic path content fault).2 = [event]) := by
  obtain ⟨files, -, -, -⟩ := @FileTree.openParent_facts true (FileTree.parents path) tree
  unfold FileTree.writeAtomic
  split
  · exact .inl ⟨rfl, rfl, by simp⟩
  split
  · next error way =>
    rw [way] at files
    obtain rfl := FileTree.openParent_error way
    exact .inl ⟨files, rfl, by simp⟩
  next after way =>
  rw [way] at files
  have same : after.files.set path content = tree.files.set path content := by
    rw [show after.files = tree.files from files]
  split
  · exact .inl ⟨files, rfl, by simp⟩
  cases fault with
  | none => exact .inr ⟨same, rfl⟩
  | access | sink exception => exact .inr ⟨same, rfl⟩
  | write => exact .inl ⟨files, rfl, by simp⟩
  | sync => exact .inr ⟨same, rfl⟩

theorem writeAtomic_present {tree : FileTree} (path : String) (content : ByteArray) (fault : IoFault)
    {other : String} {data : ByteArray} (present : tree.files.get? other = some data) :
    ∃ kept, (tree.writeAtomic path content fault).1.files.get? other = some kept := by
  rcases writeAtomic_told tree path content fault (.wrote none path content) with
    ⟨files, -, -⟩ | ⟨files, -⟩
  · exact ⟨data, by rw [files, present]⟩
  · rw [files]
    simp only [Dict.get?_set]
    split
    · exact ⟨content, rfl⟩
    · exact ⟨data, present⟩

section Rules

variable {inv : ProjectWorld → Prop} {world : ProjectWorld} {done : Unit → ProjectWorld → Prop}

theorem nextWeather_keeping {done : Weather → ProjectWorld → Prop}
    (kept : ∀ rest, inv { world with weather := rest })
    (holds : ∀ weather rest, done weather { world with weather := rest }) :
    nextWeather.After (.keeping inv done) world := by
  unfold nextWeather After
  rcases world with ⟨target, checkpoint, state, weather, turns, history⟩
  cases weather with
  | nil => exact ⟨kept [], holds _ []⟩
  | cons weather rest => exact ⟨kept rest, holds _ rest⟩

theorem outlive_keeping {weather : Weather} {outcome : Except Raised Unit} (kept : inv world)
    (holds : outcome = .ok () → done () world) :
    (outlive weather outcome).After (.keeping inv done) world := by
  unfold outlive
  split
  · exact kept
  · exact keeping_ofExcept kept (fun _ => holds)

section

variable (before : ∀ rest, inv { world with weather := rest })
include before

theorem durably_keeping {write : ProjectWorld → ProjectWorld}
    (after : ∀ rest, inv (write { world with weather := rest }))
    (holds : ∀ rest, done () (write { world with weather := rest })) :
    (durably write).After (.keeping inv done) world := by
  refine keeping_bind (m := fun _ reached => ∃ rest, reached = { world with weather := rest })
    (nextWeather_keeping before (fun _ rest => ⟨rest, rfl⟩)) ?_
  rintro weather _ kept ⟨rest, rfl⟩
  split
  · refine keeping_bind (m := fun _ reached => reached = write { world with weather := rest })
      (keeping_change (after rest) rfl) ?_
    rintro _ _ kept rfl
    exact outlive_keeping kept (fun _ => holds rest)
  · refine keeping_bind (m := fun _ reached => reached = write { world with weather := rest })
      (keeping_change (after rest) rfl) ?_
    rintro _ _ kept rfl
    exact outlive_keeping kept (fun _ => holds rest)
  · exact outlive_keeping kept (fun same => by cases same)

theorem writeState_keeping
    (after : ∀ rest, inv { world with weather := rest, checkpoint := some world.state })
    (holds : ∀ rest, done () { world with weather := rest, checkpoint := some world.state }) :
    writeState.After (.keeping inv done) world :=
  durably_keeping before after holds

theorem makeTarget_keeping
    (after : ∀ rest,
      inv { world with weather := rest, target := some (world.target.getD ⟨.empty, ∅⟩) })
    (holds : ∀ rest,
      done () { world with weather := rest, target := some (world.target.getD ⟨.empty, ∅⟩) }) :
    makeTarget.After (.keeping inv done) world :=
  durably_keeping before after holds

/-- A write to the target: its invariant survives the tree and the telling that `write_atomic`
leaves, whatever befalls it. -/
theorem writeTarget_keeping {path : String} {content : ByteArray}
    {event : ProjectWorld → FileTree → ProjectEvent}
    (after : ∀ rest fault tree, world.target = some tree →
      let written := tree.writeAtomic path content fault
      let reached := { world with
        weather := rest
        target := some written.1
        history := world.history ++
          told (event { world with weather := rest } written.1) fault written.2 }
      inv reached ∧ (written.2 = .ok () → done () reached)) :
    (writeTarget path content event).After (.keeping inv done) world := by
  refine keeping_bind (m := fun _ reached => ∃ rest, reached = { world with weather := rest })
    (nextWeather_keeping before (fun _ rest => ⟨rest, rfl⟩)) ?_
  rintro weather _ kept ⟨rest, rfl⟩
  refine keeping_bind (m := fun seen reached => seen = reached ∧ reached = { world with weather := rest })
    (keeping_ask kept ⟨rfl, rfl⟩) ?_
  rintro _ _ kept ⟨rfl, rfl⟩
  split
  · exact keeping_raise kept
  next tree found =>
  split
  · exact outlive_keeping kept (fun same => by cases same)
  obtain ⟨held, holds⟩ := after rest weather.fault tree found
  refine keeping_bind (m := fun _ reached => reached = _) (keeping_change held rfl) ?_
  rintro _ _ kept rfl
  refine outlive_keeping kept (fun succeeded => holds ?_)
  cases outcome : (tree.writeAtomic path content weather.fault).2 with
  | ok _ => rfl
  | error error =>
    rw [outcome] at succeeded
    cases succeeded

end

end Rules

end ProjectMigrationRunner

end CodeMigrator
