import CodeMigrator.Lib.Transition

/-!
# Versioned states

A machine shows a part of its state, the view, which carries a version. When every step leaves
the view alone or raises its version, a version names one view for the whole run; and an input
that is conditional on a version takes effect on that view only, and at most once.
-/

namespace Lib

variable {σ ι α : Type}

/-- The view is still there, and either the same or one of a greater version. -/
def Advances (view : σ → Option α) (version : α → Int) (before after : σ) : Prop :=
  ∀ seen, view before = some seen →
    ∃ later, view after = some later ∧ (later = seen ∨ version seen < version later)

/-- An input that expects a version changes the view of that version only, and raises the
version. -/
def Conditional (step : σ → ι → σ) (view : σ → Option α) (version : α → Int)
    (expects : ι → Option Int) (state : σ) (input : ι) : Prop :=
  ∀ expected, expects input = some expected → view (step state input) ≠ view state →
    ∃ seen later, view state = some seen ∧ version seen = expected ∧
      view (step state input) = some later ∧ expected < version later

/-- What versions tell the readers of a run. -/
structure Versioned (step : σ → ι → σ) (view : σ → Option α) (version : α → Int)
    (expects : ι → Option Int) (start : σ) (inputs : List ι) : Prop where
  /-- The version never decreases. -/
  monotone : Throughout step (fun earlier later => ∀ seen next, view earlier = some seen →
    view later = some next → version seen ≤ version next) start inputs
  /-- A version names one view. -/
  identifies : Throughout step (fun earlier later => ∀ seen next, view earlier = some seen →
    view later = some next → version seen = version next → seen = next) start inputs
  /-- A conditional input that takes effect does so on the view that all readers of its version
  see. -/
  exact_ : ∀ earlier input rest expected, inputs = earlier ++ input :: rest →
    expects input = some expected →
    view (runFrom step start (earlier ++ [input])) ≠ view (runFrom step start earlier) →
    ∃ seen, view (runFrom step start earlier) = some seen ∧ version seen = expected ∧
      ∀ others remaining read, inputs = others ++ remaining →
        view (runFrom step start others) = some read → version read = expected → read = seen
  /-- Of two inputs conditional on one version at most one takes effect. -/
  once : ∀ earlier first middle second rest expected,
    inputs = earlier ++ first :: (middle ++ second :: rest) → expects first = some expected →
    expects second = some expected →
    view (runFrom step start (earlier ++ [first])) ≠ view (runFrom step start earlier) →
    view (runFrom step start (earlier ++ first :: middle ++ [second])) =
      view (runFrom step start (earlier ++ first :: middle))

section Runs

variable {step : σ → ι → σ} {view : σ → Option α} {version : α → Int} {expects : ι → Option Int}
  {seen : α}

theorem Advances.refl (state : σ) : Advances view version state state :=
  fun seen found => ⟨seen, found, Or.inl rfl⟩

theorem Advances.trans (first second third : σ) (before : Advances view version first second)
    (after : Advances view version second third) : Advances view version first third := by
  intro seen found
  obtain ⟨middle, foundMiddle, toMiddle⟩ := before seen found
  obtain ⟨last, foundLast, toLast⟩ := after middle foundMiddle
  refine ⟨last, foundLast, ?_⟩
  rcases toMiddle with rfl | raised
  · exact toLast
  · rcases toLast with rfl | again
    · exact Or.inr raised
    · exact Or.inr (Int.lt_trans raised again)

theorem Advances.le {before after : σ} (advances : Advances view version before after) {next : α}
    (found : view before = some seen) (foundNext : view after = some next) :
    version seen ≤ version next := by
  obtain ⟨later, foundLater, same | raised⟩ := advances seen found
  · rw [foundNext, Option.some.injEq] at foundLater
    exact Int.le_of_eq (by rw [foundLater, same])
  · rw [foundNext, Option.some.injEq] at foundLater
    rw [foundLater]
    exact Int.le_of_lt raised

theorem Advances.eq {before after : σ} (advances : Advances view version before after) {next : α}
    (found : view before = some seen) (foundNext : view after = some next)
    (same : version seen = version next) : seen = next := by
  obtain ⟨later, foundLater, equal | raised⟩ := advances seen found
  · rw [foundNext, Option.some.injEq] at foundLater
    rw [foundLater, equal]
  · rw [foundNext, Option.some.injEq] at foundLater
    rw [same, foundLater] at raised
    exact absurd raised (Int.lt_irrefl _)

theorem eq_of_version {start : σ} {inputs : List ι}
    (advances : Throughout step (Advances view version) start inputs)
    {first second firstRest secondRest : List ι} (left : inputs = first ++ firstRest)
    (right : inputs = second ++ secondRest) {read : α}
    (found : view (runFrom step start first) = some seen)
    (foundRead : view (runFrom step start second) = some read) (same : version seen = version read) :
    seen = read := by
  rcases List.append_eq_append_iff.mp (left.symm.trans right) with
    ⟨between, rfl, -⟩ | ⟨between, rfl, -⟩
  · exact (advances first between secondRest right).eq found foundRead same
  · exact ((advances second between firstRest left).eq foundRead found same.symm).symm

theorem versioned_of_along {start : σ} {inputs : List ι}
    (along : Along step (fun state input => Advances view version state (step state input) ∧
      Conditional step view version expects state input) start inputs) :
    Versioned step view version expects start inputs := by
  have advances : Throughout step (Advances view version) start inputs :=
    (throughout_iff Advances.refl Advances.trans).mpr
      (along.imp fun state input member both => both.1)
  have conditional : ∀ {earlier input rest}, inputs = earlier ++ input :: rest →
      Conditional step view version expects (runFrom step start earlier) input := by
    intro earlier input rest split
    rw [split] at along
    exact along.of_append.2.1.2
  have last : ∀ earlier input, runFrom step start (earlier ++ [input]) =
      step (runFrom step start earlier) input :=
    fun earlier input => runFrom_append step start earlier [input]
  refine ⟨?_, ?_, ?_, ?_⟩
  · intro earlier later rest split seen next found foundNext
    exact (advances earlier later rest split).le found foundNext
  · intro earlier later rest split seen next found foundNext
    exact (advances earlier later rest split).eq found foundNext
  · intro earlier input rest expected split expecting effect
    rw [last] at effect
    obtain ⟨seen, -, found, current, -⟩ := conditional split expected expecting effect
    refine ⟨seen, found, current, ?_⟩
    intro others remaining read splitOthers foundRead same
    exact eq_of_version advances splitOthers split foundRead found (same.trans current.symm)
  · intro earlier first middle second rest expected split expectingFirst expectingSecond effect
    rw [last] at effect
    obtain ⟨-, later, -, -, foundLater, raised⟩ := conditional split expected expectingFirst effect
    have splitSecond : inputs = (earlier ++ first :: middle) ++ second :: rest := by
      rw [split, List.append_assoc, List.cons_append]
    apply Classical.byContradiction
    intro again
    rw [last] at again
    obtain ⟨seen, -, found, current, -⟩ :=
      conditional splitSecond expected expectingSecond again
    -- the version has passed the expected one before the second input
    have between : inputs = (earlier ++ [first]) ++ middle ++ second :: rest := by
      rw [splitSecond]
      simp
    have grown := advances (earlier ++ [first]) middle (second :: rest) between
    have reached : earlier ++ [first] ++ middle = earlier ++ first :: middle := by simp
    rw [reached] at grown
    have bound := grown.le (by rw [last]; exact foundLater) found
    rw [current] at bound
    exact absurd (Int.lt_of_lt_of_le raised bound) (Int.lt_irrefl _)

end Runs

end Lib
