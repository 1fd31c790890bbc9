import Tabletop.Store.Transaction
import Tabletop.Proofs.Fallible
import Mathlib

/-!
# Work that is committed last

Work goes from step to step until one fails, and every step finds the transaction as the one
before has left it.  A piece of work is committed last if it commits nothing until it is through,
commits then, and only looks things up afterwards.  If it fails before the commit, or if the
store refuses a change when it is written, everyone sees the store as it was.
-/

namespace Tabletop
namespace Store

namespace Transaction

theorem write_keeps {transaction later : Transaction} {edit : Edit}
    (hwrite : transaction.write edit = .ok later) :
    later.committed = transaction.committed ∧ later.waiting = transaction.waiting := by
  cases edit with
  | addUser name =>
      simp only [write, Except.bind_eq_ok_iff, Except.pure_eq_ok_iff] at hwrite
      obtain ⟨_, -, rfl⟩ := hwrite
      exact ⟨rfl, rfl⟩
  | addActor new =>
      simp only [write, Except.bind_eq_ok_iff, Except.pure_eq_ok_iff] at hwrite
      obtain ⟨_, -, rfl⟩ := hwrite
      exact ⟨rfl, rfl⟩
  | updateActor actor profile =>
      simp only [write, Except.bind_eq_ok_iff, Except.pure_eq_ok_iff] at hwrite
      obtain ⟨_, -, rfl⟩ := hwrite
      exact ⟨rfl, rfl⟩
  | dropActor id =>
      obtain rfl := Except.pure_eq_ok_iff.mp hwrite
      exact ⟨rfl, rfl⟩

/-- What is written is not yet committed, and then nothing waits any longer. -/
theorem flush_keeps {transaction flushed : Transaction}
    (hflush : transaction.flush = .ok flushed) :
    flushed.committed = transaction.committed ∧ flushed.waiting = [] := by
  refine Except.foldlM_preserves
    (p := fun reached => reached.committed = transaction.committed ∧ reached.waiting = [])
    ?_ ⟨rfl, rfl⟩ hflush
  rintro reached edit next hedit ⟨hcommitted, hwaiting⟩ hwrite
  obtain ⟨hsame, hkept⟩ := write_keeps hwrite
  exact ⟨hsame.trans hcommitted, hkept.trans hwaiting⟩

end Transaction

namespace Work

variable {ε ε' α β : Type} (transaction : Transaction)

/-! ## Steps -/

theorem during_pure (x : α) : (pure x : Work ε α).during transaction = (.ok x, transaction) := rfl

theorem during_bind (work : Work ε α) (next : α → Work ε β) :
    (work >>= next).during transaction =
      match work.during transaction with
      | (.ok x, later) => (next x).during later
      | (.error cause, later) => (.error cause, later) := by
  show (match ((ExceptT.run work).run transaction).1 with
    | .ok x => ExceptT.run (next x)
    | .error cause => pure (.error cause)) ((ExceptT.run work).run transaction).2 = _
  unfold during
  cases ((ExceptT.run work).run transaction) with
  | mk result later => cases result <;> rfl

theorem during_lift (result : Except ε α) :
    (liftM result : Work ε α).during transaction = (result, transaction) := rfl

theorem during_read (look : Store → Except ε α) :
    (read look).during transaction = (look transaction.written, transaction) := rfl

theorem during_wait (edit : Edit) :
    (wait edit : Work ε Unit).during transaction =
      (.ok (), { transaction with waiting := transaction.waiting ++ [edit] }) := rfl

theorem during_assign (actor : Actor) (profile : Profile) :
    (assign actor profile : Work ε Unit).during transaction =
      (.ok (), { transaction with
        waiting := transaction.waiting.filter (!·.isUpdateOf actor.id) ++
          [.updateActor actor profile] }) := rfl

theorem during_latest :
    latest.during transaction =
      (transaction.added.head?.elim (.error .noRow) .ok, transaction) := by
  cases transaction with
  | mk committed written waiting added => cases added <;> rfl

theorem during_mapError (f : ε → ε') (work : Work ε α) :
    (work.mapError f).during transaction =
      ((work.during transaction).1.mapError f, (work.during transaction).2) := rfl

theorem during_flush :
    flush.during transaction =
      match transaction.flush with
      | .ok flushed => (.ok (), flushed)
      | .error cause => (.error cause, transaction.rollback) := by
  have hsteps : flush.during transaction =
      (match transaction.flush with
        | .ok flushed => set flushed
        | .error cause => do
          set transaction.rollback
          throw cause : Work StoreError Unit).during transaction := rfl
  rw [hsteps]
  cases transaction.flush <;> rfl

theorem during_commit :
    commit.during transaction =
      match transaction.flush with
      | .ok flushed => (.ok (), { flushed with committed := flushed.written })
      | .error cause => (.error cause, transaction.rollback) := by
  unfold commit
  rw [during_bind, during_flush]
  cases transaction.flush <;> rfl

/-! ## Commits -/

/-- Whether it succeeds or fails, the work leaves what everyone else sees. -/
def CommitsNothing (work : Work ε α) : Prop :=
  ∀ transaction, (work.during transaction).2.committed = transaction.committed

section CommitsNothing

theorem commitsNothing_pure (x : α) : (pure x : Work ε α).CommitsNothing := fun _ => rfl

theorem commitsNothing_lift (result : Except ε α) :
    (liftM result : Work ε α).CommitsNothing := fun _ => rfl

theorem commitsNothing_read (look : Store → Except ε α) : (read look).CommitsNothing :=
  fun _ => rfl

theorem commitsNothing_wait (edit : Edit) : (wait edit : Work ε Unit).CommitsNothing :=
  fun _ => rfl

theorem commitsNothing_assign (actor : Actor) (profile : Profile) :
    (assign actor profile : Work ε Unit).CommitsNothing := fun _ => rfl

theorem commitsNothing_throw (cause : ε) : (throw cause : Work ε α).CommitsNothing := fun _ => rfl

theorem commitsNothing_flush : flush.CommitsNothing := by
  intro transaction
  rw [during_flush]
  cases hflush : transaction.flush with
  | ok flushed => exact (Transaction.flush_keeps hflush).1
  | error cause => rfl

theorem CommitsNothing.mapError {work : Work ε α} (hwork : work.CommitsNothing) (f : ε → ε') :
    (work.mapError f).CommitsNothing := hwork

theorem CommitsNothing.bind {work : Work ε α} {next : α → Work ε β} (hwork : work.CommitsNothing)
    (hnext : ∀ x, (next x).CommitsNothing) : (work >>= next).CommitsNothing := by
  intro transaction
  have hcommitted := hwork transaction
  rw [during_bind]
  generalize work.during transaction = done at hcommitted
  obtain ⟨result, later⟩ := done
  cases result with
  | error cause => exact hcommitted
  | ok x => exact (hnext x later).trans hcommitted

theorem CommitsNothing.forM {items : List α} {step : α → Work ε Unit}
    (hstep : ∀ item, (step item).CommitsNothing) : (items.forM step).CommitsNothing := by
  induction items with
  | nil => exact commitsNothing_pure ()
  | cons item rest ih => exact (hstep item).bind fun _ => ih

end CommitsNothing

/-- The work leaves the transaction alone. -/
def ChangesNothing (work : Work ε α) : Prop :=
  ∀ transaction, (work.during transaction).2 = transaction

theorem changesNothing_pure (x : α) : (pure x : Work ε α).ChangesNothing := fun _ => rfl

theorem changesNothing_read (look : Store → Except ε α) : (read look).ChangesNothing :=
  fun _ => rfl

theorem changesNothing_latest : latest.ChangesNothing := by
  intro transaction
  rw [during_latest]

theorem ChangesNothing.mapError {work : Work ε α} (hwork : work.ChangesNothing) (f : ε → ε') :
    (work.mapError f).ChangesNothing := hwork

theorem ChangesNothing.bind {work : Work ε α} {next : α → Work ε β} (hwork : work.ChangesNothing)
    (hnext : ∀ x, (next x).ChangesNothing) : (work >>= next).ChangesNothing := by
  intro transaction
  have hsame := hwork transaction
  rw [during_bind]
  generalize work.during transaction = done at hsame
  obtain ⟨result, later⟩ := done
  obtain rfl := hsame
  cases result with
  | error cause => rfl
  | ok x => exact hnext x later

/-- The only commit of the work is the last of its changes. -/
def CommitsLast (refuse : StoreError → ε) (work : Work ε β) : Prop :=
  ∃ (α : Type) (prepare : Work ε α) (answer : α → Work ε β),
    prepare.CommitsNothing ∧ (∀ x, (answer x).ChangesNothing) ∧
      work = do
        let x ← prepare
        commit.mapError refuse
        answer x

/-- Work that is prepared, committed and then answered.  What is not committed is lost. -/
theorem on_committed {refuse : StoreError → ε} {prepare : Work ε α} {answer : α → Work ε β}
    (hprepare : prepare.CommitsNothing) (hanswer : ∀ x, (answer x).ChangesNothing)
    (store : Store) :
    (do
      let x ← prepare
      commit.mapError refuse
      answer x : Work ε β).on store =
      match prepare.during (.on store) with
      | (.error cause, _) => (.error cause, store)
      | (.ok x, prepared) =>
        match prepared.flush with
        | .error cause => (.error (refuse cause), store)
        | .ok flushed =>
          (((answer x).during { flushed with committed := flushed.written }).1,
            flushed.written) := by
  have hcommitted := hprepare (.on store)
  unfold on
  rw [during_bind]
  generalize prepare.during (.on store) = done at hcommitted
  obtain ⟨result, prepared⟩ := done
  cases result with
  | error cause => exact Prod.ext rfl hcommitted
  | ok x =>
      simp only [during_bind, during_mapError, during_commit]
      cases hflush : prepared.flush with
      | error cause => exact Prod.ext rfl hcommitted
      | ok flushed =>
          refine Prod.ext rfl ?_
          exact congrArg Transaction.committed
            (hanswer x { flushed with committed := flushed.written })

/-- Either nothing is committed and the work has failed, or all that was written is committed and
nothing is left waiting. -/
theorem CommitsLast.all_or_nothing {refuse : StoreError → ε} {work : Work ε β}
    (hlast : work.CommitsLast refuse) (store : Store) :
    let last := (work.during (.on store)).2
    (∃ cause, (work.during (.on store)).1 = .error cause) ∧ last.committed = store ∨
      last.committed = last.written ∧ last.waiting = [] := by
  obtain ⟨α, prepare, answer, hprepare, hanswer, rfl⟩ := hlast
  have hcommitted := hprepare (.on store)
  rw [during_bind]
  generalize prepare.during (.on store) = done at hcommitted
  obtain ⟨result, prepared⟩ := done
  cases result with
  | error cause => exact .inl ⟨⟨cause, rfl⟩, hcommitted⟩
  | ok x =>
      simp only [during_bind, during_mapError, during_commit]
      cases hflush : prepared.flush with
      | error cause => exact .inl ⟨⟨refuse cause, rfl⟩, hcommitted⟩
      | ok flushed =>
          right
          simp only [Except.mapError, hanswer x _]
          exact ⟨trivial, (Transaction.flush_keeps hflush).2⟩

end Work
end Store
end Tabletop
