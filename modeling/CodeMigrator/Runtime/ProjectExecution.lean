import CodeMigrator.Runtime.ProjectWrites

/-!
# The execution of a project migration

`_run_execute` with its workers in any order of their turns: what every turn keeps, and that
no file is left pending when the execution returns.
-/

namespace CodeMigrator
open Lib

namespace ProjectMigrationRunner
open Lib.Process

variable (tools : RunnerTools) (contents : Dict String ByteArray)
  (translator : Option (String → String → Except Raised TranslationResult)) {workers : List Worker}
  {position : Nat} {worker other : Worker}

/-- A file goes on as a migration of the same, and it is not completed unless it was. -/
structure Unmarked (item after : FileState) : Prop where
  identity : after.identity = item.identity
  status : after.status = .succeeded → item.status = .succeeded

/-- The file was put in place after a part of the history. -/
def Rewrote (base history : List ProjectEvent) (file : FileIdentity) (content : ByteArray) : Prop :=
  ∃ since, history = base ++ since ∧ .wrote file.sourcePath file.targetPath content ∈ since

/-- A file whose target is in place. -/
def completed (content : ByteArray) (item : FileState) : FileState :=
  { item with targetSha256 := some (tools.sha256 content), status := .succeeded }

/-- An invariant that survives whatever a worker does: it marks a file as completed only once it
has put it in place, after the part `base` of the history. -/
structure Carried (base : List ProjectEvent) (inv : ProjectWorld → Prop) : Prop where
  since : ∀ world, inv world → base <+: world.history
  weather : ∀ world rest, inv world → inv { world with weather := rest }
  turns : ∀ world rest, inv world → inv { world with turns := rest }
  setFile : ∀ world position update, (∀ item, Unmarked item (update item)) → inv world →
    inv { world with
      state := { world.state with files := world.state.files.modify position update } }
  marked : ∀ world position item content, world.state.files[position]? = some item →
    Rewrote base world.history item.identity content → inv world →
    inv { world with
      state := { world.state with
        files := world.state.files.modify position (completed tools content) } }
  saved : ∀ world, inv world → inv { world with checkpoint := some world.state }
  written : ∀ world tree item content fault, world.target = some tree →
    item ∈ world.state.files → fileContent tools contents translator item = .ok content → inv world →
      let written := tree.writeAtomic item.targetPath content fault
      inv { world with
        target := some written.1
        history := world.history ++
          told (.wrote item.sourcePath item.targetPath content) fault written.2 }

/-- A later world of the same migration. -/
structure Later (before after : ProjectWorld) : Prop where
  history : before.history <+: after.history
  identities : after.state.identities = before.state.identities

/-- A worker that has written its file put it in place. -/
def Evident (base : List ProjectEvent) (world : ProjectWorld) (worker : Worker) : Prop :=
  ∀ content, worker.stage = .written content → ∃ item,
    world.state.files[worker.item]? = some item ∧ Rewrote base world.history item.identity content

/-- The turns that a worker still needs. -/
def Worker.toGo (worker : Worker) : Nat :=
  match worker.stage with
  | .submitted => 3
  | .running => 2
  | _ => 1

/-- The turns that workers still need. -/
def toGo (workers : List Worker) : Nat := (workers.map Worker.toGo).sum

/-- Every pending file has its worker. -/
def Attended (workers : List Worker) (files : List FileState) : Prop :=
  ∀ (position : Nat) (item : FileState), files[position]? = some item → item.status = .pending →
    ∃ worker ∈ workers, worker.item = position

/-- What a turn does to the files: it leaves the statuses as they are, or settles the file of
its worker. -/
structure Turned (files after : List FileState) (worker : Worker) (next : Option Worker) : Prop where
  others : ∀ (position : Nat) (item : FileState), after[position]? = some item → item.status = .pending →
    ∃ old, files[position]? = some old ∧ old.status = .pending
  settled : next = none → ∀ item, after[worker.item]? = some item → item.status ≠ .pending
  goesOn : ∀ other, next = some other → other.item = worker.item ∧ other.toGo < worker.toGo

theorem Worker.toGo_pos (worker : Worker) : 0 < worker.toGo := by
  unfold Worker.toGo
  split <;> decide

section

variable (found : workers[position]? = some worker)
include found

theorem toGo_eraseIdx : toGo (workers.eraseIdx position) + worker.toGo = toGo workers := by
  induction workers generalizing position with
  | nil => simp at found
  | cons head tail ih =>
    cases position with
    | zero =>
      obtain rfl := Option.some.inj found
      simp only [List.eraseIdx_zero, List.tail_cons, toGo, List.map_cons, List.sum_cons]
      omega
    | succ position =>
      have rest := ih found
      simp only [toGo, List.eraseIdx_cons_succ, List.map_cons, List.sum_cons] at rest ⊢
      omega

theorem toGo_set (less : other.toGo < worker.toGo) :
    toGo (workers.set position other) < toGo workers := by
  induction workers generalizing position with
  | nil => simp at found
  | cons head tail ih =>
    cases position with
    | zero =>
      obtain rfl := Option.some.inj found
      simp only [List.set_cons_zero, toGo, List.map_cons, List.sum_cons]
      omega
    | succ position =>
      have rest := ih found
      simp only [toGo, List.set_cons_succ, List.map_cons, List.sum_cons] at rest ⊢
      omega

theorem toGo_afterTurn {files after : List FileState} {next : Option Worker}
    (turned : Turned files after worker next) :
    toGo (afterTurn workers position next) < toGo workers := by
  cases next with
  | none =>
    have erased := toGo_eraseIdx found
    have := worker.toGo_pos
    simp only [afterTurn]
    omega
  | some other => exact toGo_set found (turned.goesOn other rfl).2

theorem mem_eraseIdx_of_ne (member : other ∈ workers) (different : other.item ≠ worker.item) :
    other ∈ workers.eraseIdx position := by
  rw [List.mem_eraseIdx_iff_getElem?]
  obtain ⟨index, at_⟩ := List.mem_iff_getElem?.mp member
  refine ⟨index, ?_, at_⟩
  rintro rfl
  rw [found] at at_
  obtain rfl := Option.some.inj at_
  exact different rfl

theorem mem_set_of_ne {next : Worker} (member : other ∈ workers)
    (different : other.item ≠ worker.item) : other ∈ workers.set position next := by
  obtain ⟨index, at_⟩ := List.mem_iff_getElem?.mp member
  have elsewhere : position ≠ index := by
    rintro rfl
    rw [found] at at_
    obtain rfl := Option.some.inj at_
    exact different rfl
  exact List.mem_iff_getElem?.mpr ⟨index, by rw [List.getElem?_set_ne elsewhere, at_]⟩

end

theorem Attended.afterTurn {files after : List FileState} {next : Option Worker}
    (attended : Attended workers files) (found : workers[position]? = some worker)
    (turned : Turned files after worker next) :
    Attended (afterTurn workers position next) after := by
  intro place item at_ pending
  obtain ⟨old, was, wasPending⟩ := turned.others place item at_ pending
  obtain ⟨other, member, rfl⟩ := attended place old was wasPending
  by_cases same : other.item = worker.item
  · cases next with
    | none =>
      rw [same] at at_
      exact absurd pending (turned.settled rfl item at_)
    | some going =>
      obtain ⟨bound, -⟩ := List.getElem?_eq_some_iff.mp found
      refine ⟨going, ?_, ?_⟩
      · exact List.mem_iff_getElem?.mpr ⟨position, List.getElem?_set_self bound⟩
      · rw [(turned.goesOn going rfl).1, same]
  · cases next with
    | none => exact ⟨other, mem_eraseIdx_of_ne found member same, rfl⟩
    | some going => exact ⟨other, mem_set_of_ne found member same, rfl⟩

/-! ## One turn -/

section Turns

variable {inv : ProjectWorld → Prop} {world : ProjectWorld}

theorem nextTurn_keeping {choices : Nat} (kept : ∀ turns, inv { world with turns := turns }) :
    (nextTurn choices).After (.keeping inv (fun _ reached =>
      reached.state = world.state ∧ reached.history = world.history)) world := by
  unfold nextTurn After
  rcases world with ⟨target, checkpoint, state, weather, turns, history⟩
  cases turns with
  | nil => exact ⟨kept [], rfl, rfl⟩
  | cons turn turns => exact ⟨kept turns, rfl, rfl⟩

theorem fileAt_keeping (kept : inv world) (position : Nat) :
    (fileAt position).After
      (.keeping inv (fun item reached => reached = world ∧ world.state.files[position]? = some item))
      world := by
  refine keeping_bind (m := fun found reached =>
    reached = world ∧ found = world.state.files[position]?) (keeping_ask kept ⟨rfl, rfl⟩) ?_
  rintro found _ kept ⟨rfl, rfl⟩
  split
  · next item found => exact keeping_pure kept ⟨rfl, found⟩
  · exact keeping_raise kept

theorem completedAndPresent_keeping (kept : inv world) (item : FileState) :
    (completedAndPresent item).After
      (.keeping inv (fun present reached => reached = world ∧
        (present = true → item.status = .succeeded))) world := by
  unfold completedAndPresent
  split
  · exact keeping_pure kept ⟨rfl, fun same => by cases same⟩
  next succeeded =>
  have succeeded : item.status = .succeeded := by simpa using succeeded
  refine keeping_bind (m := fun _ reached => reached = world) (keeping_ask kept rfl) ?_
  rintro target _ kept rfl
  split
  · exact keeping_raise kept
  · exact keeping_ofExcept kept (fun _ _ => ⟨rfl, fun _ => succeeded⟩)

theorem Turned.unchanged {files : List FileState} (same : other.item = worker.item)
    (less : other.toGo < worker.toGo) : Turned files files worker (some other) where
  others := fun position item at_ pending => ⟨item, at_, pending⟩
  settled := fun none_ => by cases none_
  goesOn := by
    rintro next some_
    obtain rfl := Option.some.inj some_
    exact ⟨same, less⟩

/-- A change of the file of the worker alone: it stays as pending as it was, or it is settled
and the worker is done. -/
theorem Turned.modify {files : List FileState} {worker : Worker} {next : Option Worker}
    {update : FileState → FileState}
    (status : ∀ item, (update item).status = .pending → item.status = .pending)
    (settled : next = none → ∀ item, (update item).status ≠ .pending)
    (goesOn : ∀ other, next = some other → other.item = worker.item ∧ other.toGo < worker.toGo) :
    Turned files (files.modify worker.item update) worker next where
  others := by
    intro position item at_ pending
    rw [List.getElem?_modify] at at_
    obtain ⟨old, was, rfl⟩ := Option.map_eq_some_iff.mp at_
    refine ⟨old, was, ?_⟩
    split at pending
    · exact status old pending
    · exact pending
  settled := by
    intro done item at_
    rw [List.getElem?_modify] at at_
    obtain ⟨old, was, rfl⟩ := Option.map_eq_some_iff.mp at_
    rw [if_pos rfl]
    exact settled done old
  goesOn := goesOn

variable {tools contents translator} {base : List ProjectEvent} {update : FileState → FileState}

theorem Unmarked.refl (item : FileState) : Unmarked item item := ⟨rfl, id⟩

theorem unmarked_modify {files : List FileState} (unmarked : ∀ item, Unmarked item (update item)) :
    List.Forall₂ Unmarked files (files.modify position update) := by
  rw [List.forall₂_iff_get]
  refine ⟨by simp, ?_⟩
  intro index _ _
  simp only [List.get_eq_getElem, List.getElem_modify]
  split
  · exact unmarked _
  · exact .refl _

theorem identities_of_unmarked {files after : List FileState} (same : List.Forall₂ Unmarked files after) :
    after.map FileState.identity = files.map FileState.identity := by
  induction same with
  | nil => rfl
  | cons first _ ih => simp only [List.map_cons, ih, first.identity]

theorem identities_modify {files : List FileState} {position : Nat} {update : FileState → FileState}
    (same : ∀ item, (update item).identity = item.identity) :
    (files.modify position update).map FileState.identity = files.map FileState.identity := by
  apply List.ext_getElem?
  intro index
  simp only [List.getElem?_map, List.getElem?_modify]
  cases files[index]? with
  | none => rfl
  | some item =>
    simp only [Option.map_some, Option.map_eq_map]
    split
    · rw [same]
    · rfl

/-! ### What a later world still knows -/

theorem Later.refl (world : ProjectWorld) : Later world world := ⟨List.prefix_refl _, rfl⟩

theorem Rewrote.later {history after : List ProjectEvent} {file : FileIdentity} {content : ByteArray}
    (rewrote : Rewrote base history file content) (grown : history <+: after) :
    Rewrote base after file content := by
  obtain ⟨since, rfl, member⟩ := rewrote
  obtain ⟨more, rfl⟩ := grown
  exact ⟨since ++ more, (List.append_assoc _ _ _), List.mem_append_left _ member⟩

theorem Later.evident {after : ProjectWorld} (later : Later world after)
    (evident : Evident base world worker) : Evident base after worker := by
  intro content stage
  obtain ⟨item, found, rewrote⟩ := evident content stage
  have here : after.state.identities[worker.item]? = some item.identity := by
    rw [later.identities, MigrationState.identities, List.getElem?_map, found]
    rfl
  rw [MigrationState.identities, List.getElem?_map] at here
  obtain ⟨other, found, identity⟩ := Option.map_eq_some_iff.mp here
  exact ⟨other, found, identity ▸ rewrote.later later.history⟩

theorem Carried.later (carried : Carried tools contents translator base inv) (world : ProjectWorld) :
    Carried tools contents translator base (fun reached => inv reached ∧ Later world reached) where
  since := fun reached kept => carried.since reached kept.1
  weather := fun reached rest kept => ⟨carried.weather reached rest kept.1, kept.2.1, kept.2.2⟩
  turns := fun reached rest kept => ⟨carried.turns reached rest kept.1, kept.2.1, kept.2.2⟩
  setFile := fun reached position update unmarked kept =>
    ⟨carried.setFile reached position update unmarked kept.1, kept.2.1,
      (identities_modify (fun item => (unmarked item).identity)).trans kept.2.2⟩
  marked := fun reached position item content found rewrote kept =>
    ⟨carried.marked reached position item content found rewrote kept.1, kept.2.1,
      (@identities_modify _ position (completed tools content) (fun _ => rfl)).trans kept.2.2⟩
  saved := fun reached kept => ⟨carried.saved reached kept.1, kept.2.1, kept.2.2⟩
  written := fun reached tree item content fault target member same kept =>
    ⟨carried.written reached tree item content fault target member same kept.1,
      kept.2.1.trans (List.prefix_append _ _), kept.2.2⟩

/-! ### The stages of a worker -/

section

variable (carried : Carried tools contents translator base inv)
include carried

theorem saved_keeping (kept : inv world) :
    writeState.After (.keeping inv (fun _ reached => reached.state = world.state)) world :=
  writeState_keeping (fun rest => carried.weather world rest kept)
    (fun rest => carried.saved _ (carried.weather world rest kept)) (fun _ => rfl)

theorem settle_keeping (worker : Worker)
    (kept : inv { world with
      state := { world.state with files := world.state.files.modify worker.item update } })
    (settled : ∀ item, (update item).status ≠ .pending) :
    (setFile worker.item update >>= fun _ => writeState >>= fun _ =>
        (pure none : Migration (Option Worker))).After
      (.keeping inv (fun next reached => Turned world.state.files reached.state.files worker next ∧
        ∀ other, next = some other → Evident base reached other)) world := by
  refine keeping_bind (m := fun _ reached =>
    reached.state.files = world.state.files.modify worker.item update) (keeping_change kept rfl) ?_
  intro _ changed kept files
  refine keeping_bind (saved_keeping carried kept) ?_
  intro _ reached kept same
  refine keeping_pure kept ⟨?_, fun _ some_ => by cases some_⟩
  rw [same, files]
  exact Turned.modify (fun item pending => absurd pending (settled item)) (fun _ => settled)
    (fun _ some_ => by cases some_)

theorem running_keeping (kept : inv world) (position : Nat) :
    (advance tools contents translator ⟨position, .running⟩).After
      (.keeping (fun reached => inv reached ∧ reached.state = world.state)
        (fun next reached => ∃ other, next = some other ∧ other.item = position ∧ other.toGo = 1 ∧
          Evident base reached other)) world := by
  refine keeping_catching ?_ ?_
  · have here : inv world ∧ world.state = world.state := ⟨kept, rfl⟩
    refine keeping_bind (fileAt_keeping here position) ?_
    rintro item _ here ⟨rfl, found⟩
    refine keeping_bind (m := fun content reached => reached = _ ∧
      fileContent tools contents translator item = .ok content)
      (keeping_ofExcept here (fun content same => ⟨rfl, same⟩)) ?_
    rintro content _ here ⟨rfl, content_⟩
    refine keeping_bind (m := fun _ reached => Rewrote base reached.history item.identity content)
      (writeTarget_keeping ?_ ?_) ?_
    · exact fun rest => ⟨carried.weather _ rest here.1, here.2⟩
    · intro rest fault tree target
      refine ⟨⟨carried.weather _ rest (carried.written _ tree item content fault target
        (List.mem_of_getElem? found) content_ here.1), here.2⟩, ?_⟩
      intro succeeded
      obtain ⟨since, same⟩ := carried.since _ here.1
      refine ⟨since ++ [.wrote item.sourcePath item.targetPath content], ?_, by simp [FileState.identity]⟩
      simp only [succeeded, told, ← same, List.append_assoc]
    · intro _ reached here rewrote
      refine keeping_pure here ⟨_, rfl, rfl, rfl, ?_⟩
      intro other stage
      obtain rfl := WorkerStage.written.inj stage
      exact ⟨item, by rw [here.2]; exact found, rewrote⟩
  · intro raised reached here
    split
    · exact keeping_pure here ⟨_, rfl, rfl, rfl, fun _ stage => by cases stage⟩
    · exact keeping_raise here

theorem advance_keeping (kept : inv world) (worker : Worker) (evident : Evident base world worker) :
    (advance tools contents translator worker).After
      (.keeping inv (fun next reached => Turned world.state.files reached.state.files worker next ∧
        ∀ other, next = some other → Evident base reached other)) world := by
  rcases worker with ⟨position, stage⟩
  cases stage with
  | submitted =>
    refine keeping_bind (fileAt_keeping kept position) ?_
    rintro item _ kept ⟨rfl, found⟩
    refine keeping_bind (completedAndPresent_keeping kept item) ?_
    rintro present world kept ⟨rfl, succeeded⟩
    split
    · next here =>
      refine keeping_pure kept ⟨⟨fun place other at_ pending => ⟨other, at_, pending⟩, ?_, ?_⟩, ?_⟩
      · rintro - other at_
        obtain rfl := Option.some.inj (found.symm.trans at_)
        rw [succeeded here]
        decide
      · intro _ some_
        cases some_
      · intro _ some_
        cases some_
    · refine keeping_bind (m := fun _ reached => reached.state.files = world.state.files.modify position
          (fun item => { item with attempts := item.attempts + 1, error := none }))
        (keeping_change (carried.setFile _ position _ (fun _ => ⟨rfl, id⟩) kept) rfl) ?_
      intro _ reached kept files
      refine keeping_pure kept ⟨?_, ?_⟩
      · rw [files]
        refine @Turned.modify _ ⟨position, .submitted⟩ _ _ (fun _ pending => pending)
          (fun none_ => by cases none_) ?_
        intro other some_
        obtain rfl := Option.some.inj some_
        exact ⟨rfl, by simp [Worker.toGo]⟩
      · intro other some_ content stage
        obtain rfl := Option.some.inj some_
        cases stage
  | running =>
    -- the state in memory stays until the next turn, whatever happens to the write
    refine (running_keeping carried kept position).weaken
      ⟨?_, fun _ _ both => both.1, fun _ both => both.1⟩
    rintro _ reached ⟨⟨kept, same⟩, other, rfl, item, oneTurn, evident⟩
    refine ⟨kept, ?_, ?_⟩
    · rw [same]
      refine Turned.unchanged item ?_
      rw [oneTurn]
      exact Nat.lt_succ_self 1
    · intro next some_
      obtain rfl := Option.some.inj some_
      exact evident
  | written content =>
    obtain ⟨item, found, rewrote⟩ := evident content rfl
    exact settle_keeping carried ⟨position, .written content⟩
      (carried.marked world position item content found rewrote kept) (fun _ => by simp)
  | refused raised =>
    refine settle_keeping carried ⟨position, .refused raised⟩
      (carried.setFile world position _ (fun _ => ⟨rfl, ?_⟩) kept) (fun _ => by simp)
    intro succeeded
    cases succeeded

end

/-! ## The whole execution -/

/-- A worker that takes its turn leaves every pending file its worker; a worker that raises
ends a sequential run, and a parallel one raises in the end. -/
theorem work_keeping (carried : Carried tools contents translator base inv) (parallelism turns : Nat)
    (workers : List Worker) (failure : Option Raised) (kept : inv world)
    (enough : toGo workers ≤ turns) (evident : ∀ worker ∈ workers, Evident base world worker)
    (attended : failure = none → Attended workers world.state.files) :
    (work tools contents translator parallelism turns workers failure).After
      (.keeping inv (fun _ reached => ∀ item ∈ reached.state.files, item.status ≠ .pending)) world := by
  have ended : ∀ {failure : Option Raised} {world : ProjectWorld}, inv world →
      (failure = none → Attended [] world.state.files) →
      (ofExcept (failure.elim (.ok ()) .error) : Migration Unit).After
        (.keeping inv (fun _ reached => ∀ item ∈ reached.state.files, item.status ≠ .pending)) world := by
    intro failure world kept attended
    refine keeping_ofExcept kept ?_
    intro _ succeeded item member pending
    cases failure with
    | some raised => cases succeeded
    | none =>
      obtain ⟨position, at_⟩ := List.mem_iff_getElem?.mp member
      obtain ⟨worker, none_, -⟩ := attended rfl position item at_ pending
      cases none_
  induction turns generalizing world workers failure with
  | zero =>
    have none_ : workers = [] := by
      cases workers with
      | nil => rfl
      | cons worker workers =>
        have := worker.toGo_pos
        simp only [toGo, List.map_cons, List.sum_cons] at enough
        omega
    subst none_
    exact ended kept attended
  | succ turns ih =>
    cases workers with
    | nil => exact ended kept attended
    | cons first rest =>
      unfold work
      refine keeping_bind (m := fun _ reached =>
        reached.state = world.state ∧ reached.history = world.history)
        (nextTurn_keeping (fun turns => carried.turns world turns kept)) ?_
      rintro position reached kept ⟨state, history⟩
      split
      · exact keeping_raise kept
      next worker found =>
      have next_ : Later world reached := ⟨history ▸ List.prefix_refl _, by rw [state]⟩
      have evident : ∀ worker ∈ first :: rest, Evident base reached worker :=
        fun worker member => next_.evident (evident worker member)
      rw [← state] at attended
      clear state history next_
      -- a parallel run goes on with the other workers, and the exception is kept
      have turn : ∀ (raises : Raised → Migration (Except Raised (Option Worker))),
          (∀ raised after, inv after ∧ Later reached after → (raises raised).After
            (.keeping (fun after => inv after ∧ Later reached after)
              (fun outcome _ => ∀ next, outcome ≠ .ok next)) after) →
          (catching (advance tools contents translator worker >>= fun after => pure (.ok after))
            raises).After
            (.keeping inv (fun outcome after => Later reached after ∧
              ∀ next, outcome = .ok next →
                Turned reached.state.files after.state.files worker next ∧
                  ∀ other, next = some other → Evident base after other)) reached := by
        intro raises refused
        have both : (catching (advance tools contents translator worker >>= fun after =>
            pure (.ok after)) raises).After
            (.keeping (fun after => inv after ∧ Later reached after) (fun outcome after =>
              ∀ next, outcome = .ok next →
                Turned reached.state.files after.state.files worker next ∧
                  ∀ other, next = some other → Evident base after other)) reached := by
          refine keeping_catching ?_ ?_
          · have here : inv reached ∧ Later reached reached := ⟨kept, .refl reached⟩
            refine keeping_bind (advance_keeping (carried.later reached) here worker
              (evident worker (List.mem_of_getElem? found))) ?_
            intro next after kept turned
            refine keeping_pure kept ?_
            rintro other same
            obtain rfl := Except.ok.inj same
            exact turned
          · intro raised after kept
            refine keeping_weaken (refused raised after kept) ?_
            exact fun outcome after _ failed next same => absurd same (failed next)
        exact both.weaken ⟨fun _ _ all => ⟨all.1.1, all.1.2, all.2⟩, fun _ _ all => all.1,
          fun _ all => all.1⟩
      refine keeping_bind (turn _ ?_) ?_
      · intro raised after kept
        split
        · exact keeping_raise kept
        · exact keeping_pure kept (fun _ same => by cases same)
      rintro outcome after kept ⟨later, turned⟩
      have still : ∀ worker ∈ first :: rest, Evident base after worker :=
        fun worker member => later.evident (evident worker member)
      split
      · next next =>
        obtain ⟨turned, goesOn⟩ := turned next rfl
        refine ih _ _ kept ?_ ?_ ?_
        · have closer := toGo_afterTurn found turned
          omega
        · intro other member
          cases next with
          | none => exact still other (List.mem_of_mem_eraseIdx member)
          | some going =>
            rcases List.mem_or_eq_of_mem_set member with old | rfl
            · exact still other old
            · exact goesOn _ rfl
        · exact fun none_ => (attended none_).afterTurn found turned
      · refine ih _ _ kept ?_ ?_ (fun none_ => by cases none_)
        · have erased := toGo_eraseIdx found
          have := worker.toGo_pos
          omega
        · exact fun other member => still other (List.mem_of_mem_eraseIdx member)

theorem pendingFrom_keeping (position : Nat) (items : List FileState) (kept : inv world) :
    (pendingFrom position items).After
      (.keeping inv (fun pending reached => reached = world ∧
        ∀ place item, items[place]? = some item → item.status = .pending →
          position + place ∈ pending)) world := by
  induction items generalizing position world with
  | nil => exact keeping_pure kept ⟨rfl, fun _ _ none_ => by simp at none_⟩
  | cons item items ih =>
    refine keeping_bind (completedAndPresent_keeping kept item) ?_
    rintro present _ kept ⟨rfl, succeeded⟩
    refine keeping_bind (ih (position + 1) kept) ?_
    rintro rest _ kept ⟨rfl, pending⟩
    refine keeping_pure kept ⟨rfl, ?_⟩
    intro place other at_ isPending
    cases place with
    | zero =>
      obtain rfl := Option.some.inj at_
      split
      · next here =>
        rw [succeeded here] at isPending
        cases isPending
      · simp
    | succ place =>
      have member := pending place other at_ isPending
      rw [show position + 1 + place = position + (place + 1) by omega] at member
      split
      · exact member
      · exact List.mem_cons_of_mem _ member

theorem toGo_submitted (pending : List Nat) :
    toGo (pending.map (⟨·, .submitted⟩)) = 3 * pending.length := by
  induction pending with
  | nil => rfl
  | cons position pending ih =>
    simp only [toGo, List.map_cons, List.sum_cons, List.length_cons, Worker.toGo] at ih ⊢
    omega

/-- The state with which the workers of an execution start. -/
def executing (state : MigrationState) : MigrationState :=
  { state with errors := state.errors.filter (· ≠ fileFailureError), phase := .execute }

theorem runExecute_keeping (carried : Carried tools contents translator base inv) (maxParallelism : Int)
    {before : ProjectWorld → Prop} (starts : ∀ rest, before { world with weather := rest })
    (made : ∀ rest,
      before { world with weather := rest, target := some (world.target.getD ⟨.empty, ∅⟩) })
    (enters : ∀ rest, inv { world with
      weather := rest
      target := some (world.target.getD ⟨.empty, ∅⟩)
      state := executing world.state })
    (covers : ∀ reached, inv reached → before reached) (here : before world) :
    (runExecute tools contents translator maxParallelism).After
      (.keeping before (fun _ reached => inv reached ∧
        ∀ item ∈ reached.state.files, item.status ≠ .pending)) world := by
  unfold runExecute
  split
  · exact keeping_raise here
  refine keeping_bind (m := fun _ reached => ∃ rest, reached =
    { world with weather := rest, target := some (world.target.getD ⟨.empty, ∅⟩) })
    (makeTarget_keeping starts made (fun rest => ⟨rest, rfl⟩)) ?_
  rintro _ _ - ⟨rest, rfl⟩
  -- from here on the workers' invariant holds
  have inner : ∀ reached, inv reached →
      (writeState >>= fun _ => ask (·.state.files) >>= fun files =>
        pendingFrom 0 files >>= fun pending =>
          work tools contents translator maxParallelism.toNat (3 * pending.length)
            (pending.map (⟨·, .submitted⟩)) none).After
        (.keeping inv (fun _ reached => ∀ item ∈ reached.state.files, item.status ≠ .pending)) reached := by
    intro reached kept
    refine keeping_bind (saved_keeping carried kept) ?_
    intro _ saved kept _
    refine keeping_bind (m := fun files after => after = saved ∧ files = saved.state.files)
      (keeping_ask kept ⟨rfl, rfl⟩) ?_
    rintro files _ kept ⟨rfl, rfl⟩
    refine keeping_bind (pendingFrom_keeping 0 _ kept) ?_
    rintro pending _ kept ⟨rfl, all⟩
    refine work_keeping carried _ _ _ none kept (toGo_submitted pending).le ?_ ?_
    · intro worker member content stage
      obtain ⟨place, -, rfl⟩ := List.mem_map.mp member
      cases stage
    intro _ place item at_ isPending
    have member := all place item at_ isPending
    rw [Nat.zero_add] at member
    exact ⟨⟨place, .submitted⟩, List.mem_map.mpr ⟨place, member, rfl⟩, rfl⟩
  have entered := inner _ (enters rest)
  refine (after_bind.mpr ?_ : After _ _ _)
  refine entered.weaken ⟨?_, ?_, ?_⟩
  · exact fun _ reached both => ⟨covers reached both.1, both⟩
  · exact fun _ reached kept => covers reached kept
  · exact fun reached kept => covers reached kept

end Turns

end ProjectMigrationRunner

end CodeMigrator
