import Tabletop.Proofs.Fallible
import Tabletop.Store
import Mathlib

/-!
# What is written

Every write of the store is either refused or does one thing.  What it does is
said here once: a new user or actor stands in its table under an id that was
free, a user goes with all actors that it owns, and a new profile must keep the
bounds of the scores.  So every write keeps both tables in the order of their ids.
-/

namespace Tabletop

/-!
## Ids of rows

Each table is in the order of its ids, and no id stands there twice.  So an id
names one row: what is found, changed or dropped under it is that row and no
other.  This holds at first, and every write keeps it, because a new row gets an
id that is free and a changed row keeps its own.
-/

/-- Rows in the order of their ids, without two rows of one id. -/
def SortedBy {α : Type} (id : α → Int) (rows : List α) : Prop :=
  rows.Pairwise fun row other => id row < id other

namespace SortedBy

variable {α : Type} {id : α → Int} {rows : List α}

theorem nodup (hsorted : SortedBy id rows) : (rows.map id).Nodup := by
  apply List.pairwise_map.mpr
  exact List.Pairwise.imp (fun hlt => ne_of_lt hlt) hsorted

theorem eq_of_id_eq (hsorted : SortedBy id rows) {row other : α} (hrow : row ∈ rows)
    (hother : other ∈ rows) (hid : id row = id other) : row = other :=
  List.inj_on_of_nodup_map hsorted.nodup hrow hother hid

theorem find?_eq_some_iff (hsorted : SortedBy id rows) {n : Int} {row : α} :
    rows.find? (id · == n) = some row ↔ row ∈ rows ∧ id row = n := by
  constructor
  · intro hfind
    exact ⟨List.mem_of_find?_eq_some hfind, by simpa using List.find?_some hfind⟩
  · rintro ⟨hrow, hid⟩
    cases hfind : rows.find? (id · == n) with
    | none =>
        have hnone := List.find?_eq_none.mp hfind row hrow
        simp [hid] at hnone
    | some other =>
        have hother := List.mem_of_find?_eq_some hfind
        have hotherId : id other = n := by simpa using List.find?_some hfind
        rw [hsorted.eq_of_id_eq hother hrow (hotherId.trans hid.symm)]

theorem filter (hsorted : SortedBy id rows) (p : α → Bool) : SortedBy id (rows.filter p) :=
  List.Pairwise.filter p hsorted

theorem map (hsorted : SortedBy id rows) {f : α → α} (hid : ∀ row, id (f row) = id row) :
    SortedBy id (rows.map f) := by
  apply List.pairwise_map.mpr
  simp only [hid]
  exact hsorted

end SortedBy

namespace Store

/-! ### New ids -/

theorem firstFree_not_mem (ids : List Int) : firstFree ids ∉ ids := by
  simp only [firstFree]
  set candidates := List.map (fun (n : Nat) => (n : Int) + 1) (List.range (ids.length + 1))
    with hcandidates
  cases hfind : candidates.find? fun id => !ids.contains id with
  | some id => simpa using List.find?_some hfind
  | none =>
      -- There is one candidate more than there are ids, so they cannot all be ids.
      have hall : candidates ⊆ ids := by
        intro id hid
        simpa using List.find?_eq_none.mp hfind id hid
      have hnodup : candidates.Nodup := by
        apply List.Nodup.map _ List.nodup_range
        intro m n hmn
        simpa using hmn
      have hlength := (hnodup.subperm hall).length_le
      simp [hcandidates] at hlength

theorem nextId_not_mem (ids : List Int) : nextId ids ∉ ids := by
  unfold nextId
  cases hmax : ids.max? with
  | none =>
      rw [List.max?_eq_none_iff] at hmax
      simp [hmax]
  | some largest =>
      by_cases hroom : largest < maxId
      · simp only [hroom, if_true]
        intro hmem
        have hle := (List.max?_eq_some_iff.mp hmax).2 _ hmem
        omega
      · simp only [hroom, if_false]
        exact firstFree_not_mem ids

theorem lt_nextId {ids : List Int} (hroom : ∀ id ∈ ids, id < maxId) {id : Int} (hid : id ∈ ids) :
    id < nextId ids := by
  unfold nextId
  cases hmax : ids.max? with
  | none =>
      rw [List.max?_eq_none_iff] at hmax
      simp [hmax] at hid
  | some largest =>
      obtain ⟨hlargest, hle⟩ := List.max?_eq_some_iff.mp hmax
      have hidle := hle id hid
      simp only [hroom largest hlargest, if_true]
      omega

theorem firstFree_pos (ids : List Int) : 0 < firstFree ids := by
  simp only [firstFree]
  set candidates := List.map (fun (n : Nat) => (n : Int) + 1) (List.range (ids.length + 1))
    with hcandidates
  cases hfind : candidates.find? fun id => !ids.contains id with
  | none => simp
  | some id =>
      have hid : id ∈ candidates := List.mem_of_find?_eq_some hfind
      obtain ⟨n, -, rfl⟩ := List.mem_map.mp hid
      simp only [Option.getD_some]
      omega

theorem nextId_pos {ids : List Int} (hpos : ∀ id ∈ ids, 0 < id) : 0 < nextId ids := by
  unfold nextId
  cases hmax : ids.max? with
  | none => simp
  | some largest =>
      have hlargest := hpos largest (List.max?_eq_some_iff.mp hmax).1
      by_cases hroom : largest < maxId
      · simp only [hroom, if_true]
        omega
      · simp only [hroom, if_false]
        exact firstFree_pos ids

/-! ### New rows -/

section Insertion

variable {α : Type} {id : α → Int} {row : α} {rows : List α}

theorem sublist_insertById (id : α → Int) (row : α) (rows : List α) :
    rows.Sublist (insertById id row rows) := by
  induction rows with
  | nil => simp
  | cons other rest ih =>
      unfold insertById
      split
      · exact List.sublist_cons_self _ _
      · exact ih.cons_cons other

theorem insertById_of_lt (hlast : ∀ other ∈ rows, id other < id row) :
    insertById id row rows = rows ++ [row] := by
  induction rows with
  | nil => rfl
  | cons other rest ih =>
      have hother := hlast other List.mem_cons_self
      have hrest := ih fun later hlater => hlast later (List.mem_cons_of_mem other hlater)
      have hnot : ¬ id row < id other := by omega
      rw [insertById, if_neg hnot, hrest, List.cons_append]

theorem filter_insertById {p : α → Bool} (hrow : p row = false) :
    (insertById id row rows).filter p = rows.filter p := by
  induction rows with
  | nil => simp [insertById, hrow]
  | cons other rest ih =>
      unfold insertById
      split
      · simp [hrow]
      · simp [List.filter_cons, ih]

theorem sortedBy_insertById (hsorted : SortedBy id rows) (hfree : id row ∉ rows.map id) :
    SortedBy id (insertById id row rows) := by
  induction rows with
  | nil => simp [SortedBy, insertById]
  | cons other rest ih =>
      obtain ⟨hother, hrest⟩ := List.pairwise_cons.mp hsorted
      simp only [List.map_cons, List.mem_cons, not_or] at hfree
      unfold insertById
      split
      next hlt =>
        apply List.pairwise_cons.mpr
        refine ⟨?_, hsorted⟩
        intro later hlater
        rcases List.mem_cons.mp hlater with rfl | hlater
        · exact hlt
        · exact hlt.trans (hother later hlater)
      next hnot =>
        apply List.pairwise_cons.mpr
        refine ⟨?_, ih hrest hfree.2⟩
        intro later hlater
        rcases (mem_insertById id row rest later).mp hlater with rfl | hlater
        · have hne := hfree.1
          omega
        · exact hother later hlater

end Insertion

/-- A filter does not see that rows are written which it drops before and after. -/
theorem filter_map_of_unseen {α : Type} {f : α → α} {p : α → Bool} {rows : List α}
    (hunseen : ∀ row ∈ rows, f row = row ∨ p row = false ∧ p (f row) = false) :
    (rows.map f).filter p = rows.filter p := by
  induction rows with
  | nil => rfl
  | cons row rest ih =>
      have hrest := ih fun other hother => hunseen other (List.mem_cons_of_mem row hother)
      rw [List.map_cons, List.filter_cons, List.filter_cons, hrest]
      rcases hunseen row List.mem_cons_self with hsame | ⟨hold, hnew⟩
      · rw [hsame]
      · simp only [hold, hnew, Bool.false_eq_true, if_false]

end Store

/-! ## Writes -/

theorem Scores.traverse_eq_ok_iff {α β ε : Type} {f : Ability → α → Except ε β}
    {scores : Scores α} {results : Scores β} :
    scores.traverse f = .ok results ↔
      ∀ ability, f ability (scores.get ability) = .ok (results.get ability) := by
  simp only [traverse, Except.bind_eq_ok_iff, Except.pure_eq_ok_iff]
  constructor
  · rintro ⟨_, hstr, _, hdex, _, hcon, _, hint, _, hwis, _, hcha, rfl⟩ ability
    cases ability <;> assumption
  · intro h
    exact ⟨_, h .strength, _, h .dexterity, _, h .constitution, _, h .intelligence,
      _, h .wisdom, _, h .charisma, rfl⟩

namespace Cell

@[simp] theorem isWhole_int (m n : Int) : (int m).isWhole n = (m == n) := rfl

end Cell

namespace Store

/-! ## Whole numbers -/

/-- A whole number that is bound is kept as it is. -/
theorem eq_int_of_bind {n : Int} {cell : Cell} (hbind : bind (.int n) = .ok (some cell)) :
    cell = .int n := by
  simp only [bind] at hbind
  split at hbind
  · exact (Option.some.inj (Except.ok.inj hbind)).symm
  · cases hbind

/-- A whole number names an id if it has 64 bits. -/
theorem key?_int (n : Int) :
    key? (.int n) = if Cell.holds n then .ok (some n) else .error (.tooLarge n) := by
  simp only [key?, bind]
  split <;> rfl

theorem findUser_int (store : Store) (id : Int) :
    store.findUser (.int id) =
      if Cell.holds id then .ok (store.user? id) else .error (.tooLarge id) := by
  simp only [findUser, key?_int]
  split <;> rfl

theorem findActor_int (store : Store) (id : Int) :
    store.findActor (.int id) =
      if Cell.holds id then .ok (store.actor? id) else .error (.tooLarge id) := by
  simp only [findActor, key?_int]
  split <;> rfl

theorem findActor_int_eq_ok_iff {store : Store} {id : Int} {found : Option Actor} :
    store.findActor (.int id) = .ok found ↔ Cell.holds id ∧ store.actor? id = found := by
  rw [findActor_int]
  split
  next hholds => simp [hholds]
  next hholds => simp [hholds]

theorem orStandard_int {standard : Int} {value : Json}
    (hvalue : value = .null ∨ ∃ n, value = .int n) :
    ∃ n, NewActor.orStandard standard value = .int n := by
  rcases hvalue with rfl | ⟨n, rfl⟩
  · exact ⟨standard, rfl⟩
  · exact ⟨n, rfl⟩

/-! ## Tables -/

/-- Both tables are in the order of their ids. -/
structure Keyed (store : Store) : Prop where
  users : SortedBy User.id store.users
  actors : SortedBy Actor.id store.actors

theorem keyed_empty : Keyed {} := ⟨List.Pairwise.nil, List.Pairwise.nil⟩

theorem Keyed.actor?_eq_some_iff {store : Store} (hkeyed : store.Keyed) {id : Int}
    {actor : Actor} : store.actor? id = some actor ↔ actor ∈ store.actors ∧ actor.id = id :=
  hkeyed.actors.find?_eq_some_iff

theorem id_of_user? {store : Store} {id : Int} {user : User}
    (hfound : store.user? id = some user) : user.id = id := by
  simpa using List.find?_some hfound

theorem id_of_actor? {store : Store} {id : Int} {actor : Actor}
    (hfound : store.actor? id = some actor) : actor.id = id := by
  simpa using List.find?_some hfound

/-! ## Users -/

section Users

variable {store after : Store} {name id : Json} {user : User}

theorem addUser_eq_ok (hadd : store.addUser name id = .ok (user, after)) :
    ∃ cell given text, bind id = .ok cell ∧ givenId? cell = .ok given ∧
      bind name = .ok (some text) ∧
      user = ⟨given.getD (nextId store.userIds), text.asText⟩ ∧
      user.id ∉ store.userIds ∧ after = store.insertUser user := by
  simp only [addUser, Except.bind_eq_ok_iff] at hadd
  obtain ⟨cell, hcell, text, htext, given, hgiven, hadd⟩ := hadd
  rcases text with - | text
  · simp at hadd
  simp only at hadd
  split at hadd
  · simp at hadd
  next hfree =>
    simp only [Except.pure_eq_ok_iff, Prod.mk.injEq] at hadd
    obtain ⟨rfl, rfl⟩ := hadd
    refine ⟨cell, given, text, hcell, hgiven, htext, rfl, ?_, rfl⟩
    simpa using hfree

theorem removeUser_eq_ok (hremove : store.removeUser id = .ok after) :
    ∃ found, store.findUser id = .ok found ∧
      after = found.elim store fun user => store.dropUser user.id := by
  simp only [removeUser, Except.bind_eq_ok_iff] at hremove
  obtain ⟨found, hfound, hremove⟩ := hremove
  refine ⟨found, hfound, ?_⟩
  cases found with
  | none => exact (Except.pure_eq_ok_iff.mp hremove).symm
  | some user => exact (Except.pure_eq_ok_iff.mp hremove).symm

theorem user?_eq_none_iff {n : Int} : store.user? n = none ↔ n ∉ store.userIds := by
  simp [user?, userIds]

theorem userIds_insertUser {n : Int} :
    n ∈ (store.insertUser user).userIds ↔ n = user.id ∨ n ∈ store.userIds := by
  simp only [userIds, insertUser, List.mem_map, mem_insertById]
  constructor
  · rintro ⟨other, rfl | hother, rfl⟩
    · exact .inl rfl
    · exact .inr ⟨other, hother, rfl⟩
  · rintro (rfl | ⟨other, hother, rfl⟩)
    · exact ⟨user, .inl rfl, rfl⟩
    · exact ⟨other, .inr hother, rfl⟩

theorem userIds_dropUser {n m : Int} :
    n ∈ (store.dropUser m).userIds ↔ n ∈ store.userIds ∧ n ≠ m := by
  simp only [userIds, dropUser, List.mem_map, List.mem_filter, bne_iff_ne]
  constructor
  · rintro ⟨other, ⟨hother, hne⟩, rfl⟩
    exact ⟨⟨other, hother, rfl⟩, hne⟩
  · rintro ⟨⟨other, hother, rfl⟩, hne⟩
    exact ⟨other, ⟨hother, hne⟩, rfl⟩

theorem Keyed.insertUser (hkeyed : store.Keyed) (hfree : user.id ∉ store.userIds) :
    (store.insertUser user).Keyed where
  users := sortedBy_insertById hkeyed.users hfree
  actors := hkeyed.actors

theorem Keyed.dropUser (hkeyed : store.Keyed) (id : Int) : (store.dropUser id).Keyed where
  users := hkeyed.users.filter _
  actors := hkeyed.actors.filter _

theorem Keyed.addUser (hkeyed : store.Keyed) (hadd : store.addUser name id = .ok (user, after)) :
    after.Keyed := by
  obtain ⟨-, -, -, -, -, -, -, hfree, rfl⟩ := addUser_eq_ok hadd
  exact hkeyed.insertUser hfree

theorem Keyed.removeUser (hkeyed : store.Keyed) (hremove : store.removeUser id = .ok after) :
    after.Keyed := by
  obtain ⟨found, -, rfl⟩ := removeUser_eq_ok hremove
  cases found with
  | none => exact hkeyed
  | some user => exact hkeyed.dropUser user.id

end Users

/-! ## Actors -/

/-- What is written down for a new actor.  Every value was brought to the form of its column. -/
structure Written (store : Store) (new : NewActor) (actor : Actor) : Prop where
  id : actor.id = nextId store.actorIds
  owner : ∃ cell, bind new.ownerId = .ok (some cell) ∧ actor.ownerId = cell.asNumber
  name : ∃ cell, bind new.name = .ok (some cell) ∧ actor.profile.name = cell.asText
  scores : ∀ ability, ∃ cell, bind (new.complete.scores.get ability) = .ok (some cell) ∧
    actor.profile.scores.get ability = cell.asNumber
  bonus : ∃ cell, bind new.complete.bonus = .ok (some cell) ∧
    actor.profile.bonus = cell.asNumber
  allowed : checkScores actor.profile.scores = .ok ()

/-- The store with an actor under an id that is free. -/
def insertActor (store : Store) (actor : Actor) : Store :=
  { store with actors := insertById Actor.id actor store.actors }

/-- The store with another row in the place of the row of the same id. -/
def setRow (store : Store) (row : Actor) : Store :=
  { store with actors := store.actors.map fun other => if other.id = row.id then row else other }

section Actors

variable {store after : Store} {new : NewActor} {actor : Actor} {profile : Profile}

theorem addActor_eq_ok (hadd : store.addActor new = .ok (actor, after)) :
    Written store new actor ∧ after = store.insertActor actor := by
  simp only [addActor, Except.bind_eq_ok_iff] at hadd
  obtain ⟨owner, howner, name, hname, cells, hcells, bonus, hbonus, hadd⟩ := hadd
  rcases owner with - | owner
  · simp at hadd
  rcases name with - | name
  · simp at hadd
  simp only [Except.bind_eq_ok_iff] at hadd
  obtain ⟨scores, hscores, hadd⟩ := hadd
  rcases bonus with - | bonus
  · simp at hadd
  simp only [Except.bind_eq_ok_iff, Except.pure_eq_ok_iff, Prod.mk.injEq] at hadd
  obtain ⟨_, hallowed, rfl, rfl⟩ := hadd
  refine ⟨⟨rfl, ⟨owner, howner, rfl⟩, ⟨name, hname, rfl⟩, ?_, ⟨bonus, hbonus, rfl⟩, hallowed⟩,
    rfl⟩
  intro ability
  have hcell := Scores.traverse_eq_ok_iff.mp hcells ability
  have hscore := Scores.traverse_eq_ok_iff.mp hscores ability
  cases hvalue : cells.get ability with
  | none => simp [hvalue] at hscore
  | some cell =>
      rw [hvalue] at hcell hscore
      refine ⟨cell, hcell, ?_⟩
      have hsame : cell = scores.get ability := Except.ok.inj hscore
      simp [hsame]

/-- An actor is given another profile if its scores may be stored or are those that it has. -/
theorem updateActor_eq_ok_iff :
    store.updateActor actor profile = .ok after ↔
      (profile ≠ actor.profile → checkScores profile.scores = .ok ()) ∧
        after = store.setProfile actor.id profile := by
  unfold updateActor
  by_cases hsame : profile = actor.profile
  · subst hsame
    simp [pure, Except.pure, eq_comm]
  · simp only [ne_eq, hsame, not_false_eq_true, if_true, Except.bind_eq_ok_iff,
      Except.pure_eq_ok_iff, true_implies]
    constructor
    · rintro ⟨_, hallowed, rfl⟩
      exact ⟨hallowed, rfl⟩
    · rintro ⟨hallowed, rfl⟩
      exact ⟨(), hallowed, rfl⟩

theorem updateActor_of_allowed (store : Store) (actor : Actor)
    (hallowed : checkScores profile.scores = .ok ()) :
    store.updateActor actor profile = .ok (store.setProfile actor.id profile) :=
  updateActor_eq_ok_iff.mpr ⟨fun _ => hallowed, rfl⟩

theorem Keyed.insertActor (hkeyed : store.Keyed) (hfree : actor.id ∉ store.actorIds) :
    (store.insertActor actor).Keyed where
  users := hkeyed.users
  actors := sortedBy_insertById hkeyed.actors hfree

theorem Keyed.setProfile (hkeyed : store.Keyed) (id : Int) (profile : Profile) :
    (store.setProfile id profile).Keyed where
  users := hkeyed.users
  actors := by
    apply hkeyed.actors.map
    intro actor
    split
    · exact actor.revised_id _ _
    · rfl

theorem Keyed.setRow (hkeyed : store.Keyed) (row : Actor) : (store.setRow row).Keyed where
  users := hkeyed.users
  actors := by
    apply hkeyed.actors.map
    intro actor
    split
    next hsame => exact hsame.symm
    next => rfl

theorem Keyed.dropActor (hkeyed : store.Keyed) (id : Int) : (store.dropActor id).Keyed where
  users := hkeyed.users
  actors := hkeyed.actors.filter _

theorem Written.id_free (hwritten : Written store new actor) : actor.id ∉ store.actorIds := by
  rw [hwritten.id]
  exact nextId_not_mem store.actorIds

theorem Written.ownerId_eq_int (hwritten : Written store new actor) {id : Int}
    (howner : new.ownerId = .int id) : actor.ownerId = .int id := by
  obtain ⟨cell, hcell, hasNumber⟩ := hwritten.owner
  rw [howner] at hcell
  obtain rfl := eq_int_of_bind hcell
  exact hasNumber

theorem Keyed.addActor (hkeyed : store.Keyed) (hadd : store.addActor new = .ok (actor, after)) :
    after.Keyed := by
  obtain ⟨hwritten, rfl⟩ := addActor_eq_ok hadd
  exact hkeyed.insertActor hwritten.id_free

/-! A write under an id leaves all rows of other ids alone. -/

theorem actor?_setRow {id : Int} {row : Actor} (hfound : store.actor? id = some actor)
    (hid : row.id = id) : (store.setRow row).actor? id = some row := by
  have hsame : ((fun other : Actor => other.id == id) ∘ fun other =>
      if other.id = row.id then row else other) = fun other => other.id == id := by
    funext other
    simp only [Function.comp_apply]
    split
    next heq => rw [heq]
    next => rfl
  simp only [actor?, setRow, List.find?_map, hsame] at hfound ⊢
  simp [hfound, id_of_actor? hfound, hid]

theorem map_setProfile {α : Type} {f : Actor → α}
    (hf : ∀ actor : Actor, f (actor.revised store.now profile) = f actor) (id : Int) :
    (store.setProfile id profile).actors.map f = store.actors.map f := by
  simp only [setProfile, List.map_map]
  apply List.map_congr_left
  intro other hother
  simp only [Function.comp_apply]
  split
  · exact hf other
  · rfl

theorem actor?_setProfile {id : Int} (hfound : store.actor? id = some actor) (profile : Profile) :
    (store.setProfile id profile).actor? id = some (actor.revised store.now profile) := by
  have hid := id_of_actor? hfound
  have hsame : ((fun other : Actor => other.id == id) ∘ fun other =>
      if other.id = id then other.revised store.now profile else other) =
      fun other => other.id == id := by
    funext other
    simp only [Function.comp_apply]
    split
    · rw [Actor.revised_id]
    · rfl
  simp only [actor?, setProfile, List.find?_map, hsame] at hfound ⊢
  simp [hfound, hid]

theorem Keyed.filter_setProfile (hkeyed : store.Keyed) {id : Int}
    (hfound : store.actor? id = some actor) {p : Actor → Bool} (hold : p actor = false)
    (hnew : p (actor.revised store.now profile) = false) :
    (store.setProfile id profile).actors.filter p = store.actors.filter p := by
  obtain ⟨hactor, hid⟩ := hkeyed.actor?_eq_some_iff.mp hfound
  apply filter_map_of_unseen
  intro other hother
  by_cases hsame : other.id = id
  · have heq : other = actor := hkeyed.actors.eq_of_id_eq hother hactor (hsame.trans hid.symm)
    right
    rw [if_pos hsame, heq]
    exact ⟨hold, hnew⟩
  · left
    simp [hsame]

theorem Keyed.filter_dropActor (hkeyed : store.Keyed) {id : Int}
    (hfound : store.actor? id = some actor) {p : Actor → Bool} (hold : p actor = false) :
    (store.dropActor id).actors.filter p = store.actors.filter p := by
  obtain ⟨hactor, hid⟩ := hkeyed.actor?_eq_some_iff.mp hfound
  simp only [Store.dropActor, List.filter_filter]
  apply List.filter_congr
  intro other hother
  by_cases hsame : other.id = id
  · have heq : other = actor := hkeyed.actors.eq_of_id_eq hother hactor (hsame.trans hid.symm)
    simp [heq, hold]
  · simp [hsame]

end Actors

/-! ## Where a write takes place -/

section Places

theorem insertById_splits {α : Type} (id : α → Int) (row : α) (rows : List α) :
    ∃ front back, rows = front ++ back ∧ insertById id row rows = front ++ row :: back := by
  induction rows with
  | nil => exact ⟨[], [], rfl, rfl⟩
  | cons other rest ih =>
      unfold insertById
      split
      · exact ⟨[], other :: rest, rfl, rfl⟩
      · obtain ⟨front, back, hrest, hinserted⟩ := ih
        refine ⟨other :: front, back, ?_, ?_⟩
        · rw [hrest, List.cons_append]
        · rw [hinserted, List.cons_append]

variable {store : Store} {id : Int} {actor : Actor}

/-- An actor that is found stands at one place, and no other row has its id. -/
theorem Keyed.actor?_splits (hkeyed : store.Keyed) (hfound : store.actor? id = some actor) :
    ∃ front back, store.actors = front ++ actor :: back ∧
      ∀ other ∈ front ++ back, other.id ≠ id := by
  obtain ⟨hactor, hid⟩ := hkeyed.actor?_eq_some_iff.mp hfound
  obtain ⟨front, back, hactors⟩ := List.append_of_mem hactor
  refine ⟨front, back, hactors, ?_⟩
  have hnodup : (actor.id :: (front ++ back).map Actor.id).Nodup := by
    have hperm : (actor :: (front ++ back)).Perm store.actors := by
      rw [hactors]
      exact List.perm_middle.symm
    exact (hperm.map Actor.id).nodup_iff.mpr hkeyed.actors.nodup
  intro other hother hsame
  have hfree := (List.nodup_cons.mp hnodup).1
  rw [hid, ← hsame] at hfree
  exact hfree (List.mem_map_of_mem hother)

theorem Keyed.setProfile_splits (hkeyed : store.Keyed) (hfound : store.actor? id = some actor)
    (profile : Profile) :
    ∃ front back, store.actors = front ++ actor :: back ∧
      (store.setProfile id profile).actors =
        front ++ actor.revised store.now profile :: back ∧
      ∀ other ∈ front ++ back, other.id ≠ id := by
  obtain ⟨front, back, hactors, hothers⟩ := hkeyed.actor?_splits hfound
  refine ⟨front, back, hactors, ?_, hothers⟩
  have hid := (hkeyed.actor?_eq_some_iff.mp hfound).2
  set f := fun other : Actor => if other.id = id then other.revised store.now profile else other
    with hf
  have hsame : ∀ rows : List Actor, (∀ other ∈ rows, other.id ≠ id) → rows.map f = rows := by
    intro rows hrows
    calc
      rows.map f = rows.map fun other => other :=
        List.map_congr_left fun other hother => if_neg (hrows other hother)
      _ = rows := List.map_id' rows
  have hactor : f actor = actor.revised store.now profile := if_pos hid
  calc
    (store.setProfile id profile).actors = store.actors.map f := rfl
    _ = front.map f ++ f actor :: back.map f := by
      rw [hactors, List.map_append, List.map_cons]
    _ = front ++ actor.revised store.now profile :: back := by
      rw [hactor, hsame front fun other hother => hothers other (List.mem_append_left back hother),
        hsame back fun other hother => hothers other (List.mem_append_right front hother)]

theorem Keyed.dropActor_splits (hkeyed : store.Keyed) (hfound : store.actor? id = some actor) :
    ∃ front back, store.actors = front ++ actor :: back ∧
      (store.dropActor id).actors = front ++ back ∧
      ∀ other ∈ front ++ back, other.id ≠ id := by
  obtain ⟨front, back, hactors, hothers⟩ := hkeyed.actor?_splits hfound
  refine ⟨front, back, hactors, ?_, hothers⟩
  have hid := (hkeyed.actor?_eq_some_iff.mp hfound).2
  have hgone : (store.dropActor id).actors = (front ++ back).filter (·.id != id) := by
    simp [Store.dropActor, hactors, List.filter_append, hid]
  rw [hgone, List.filter_eq_self]
  intro other hother
  simpa using hothers other hother

end Places

end Store

end Tabletop
