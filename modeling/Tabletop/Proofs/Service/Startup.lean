import Mathlib
import Tabletop.Proofs.Store.Transactions
import Tabletop.Proofs.Store.Writes
import Tabletop.Service.Startup

/-!
# What startup leaves behind

Startup goes through its names in one transaction.  Every name is looked for in what was written
before, so that the transaction takes the same decisions as one that writes at once, and it commits
what that leads to, or nothing if a name is not unique.  The names differ from each other.  So the
users that are added for one name are not seen when another is looked for, and whether a name stops
startup can be told from the users that were there at first.
-/

namespace Tabletop

namespace Store

open Service (StartFailure)

/-! ## Without a transaction -/

/-- The store with a user of a given name under the next id. -/
def addNamed (store : Store) (name : String) : Store :=
  store.insertUser ⟨nextId store.userIds, name⟩

/-- The store with a user of a given name, written at once. -/
def ensureUser (store : Store) (name : String) : Except StartFailure Store :=
  match store.usersNamed name with
  | [] => .ok (store.addNamed name)
  | [_] => .ok store
  | _ => .error (.ambiguous name)

def ensureUsers (store : Store) (names : List String) : Except StartFailure Store :=
  names.foldlM ensureUser store

variable {store : Store} {name other : String} {names : List String}

/-! ## One name -/

theorem usersNamed_eq_nil_iff : store.usersNamed name = [] ↔ name ∉ store.users.map User.name := by
  simp [usersNamed, List.filter_eq_nil_iff]

theorem length_usersNamed (store : Store) (name : String) :
    (store.usersNamed name).length = (store.users.map User.name).count name := by
  rw [List.count_eq_countP, List.countP_map, List.countP_eq_length_filter]
  rfl

/-- What comes of a name. -/
inductive Ensures (store : Store) (name : String) : Except StartFailure Store → Prop where
  | added (habsent : store.usersNamed name = []) : Ensures store name (.ok (store.addNamed name))
  | found {user : User} (honly : store.usersNamed name = [user]) :
      Ensures store name (.ok store)
  | stopped (hmore : 1 < (store.usersNamed name).length) :
      Ensures store name (.error (.ambiguous name))

theorem ensures_ensureUser (store : Store) (name : String) :
    Ensures store name (store.ensureUser name) := by
  unfold ensureUser
  rcases hnamed : store.usersNamed name with _ | ⟨user, _ | ⟨second, rest⟩⟩
  · exact .added hnamed
  · exact .found hnamed
  · have hmore : 1 < (store.usersNamed name).length := by
      rw [hnamed]
      simp
    exact .stopped hmore

theorem usersNamed_addNamed (hne : other ≠ name) :
    (store.addNamed name).usersNamed other = store.usersNamed other := by
  have hunseen : (name == other) = false := by simpa using hne.symm
  exact filter_insertById hunseen

/-- A name that is added or found leaves the users of other names as they were. -/
theorem Ensures.usersNamed {next : Store} (hensures : Ensures store name (.ok next))
    (hne : other ≠ name) : next.usersNamed other = store.usersNamed other := by
  cases hensures with
  | added habsent => exact usersNamed_addNamed hne
  | found honly => rfl

/-! ## Room behind the last user -/

/-- So many users can be added, each behind the one before. -/
def HasRoomFor (store : Store) (count : ℕ) : Prop := ∀ id ∈ 0 :: store.userIds, id + count ≤ maxId

theorem nextId_le {ids : List Int} {bound : Int} (hroom : ∀ id ∈ 0 :: ids, id < bound)
    (hbound : bound ≤ maxId) : nextId ids ≤ bound := by
  unfold nextId
  cases hmax : ids.max? with
  | none => exact hroom 0 List.mem_cons_self
  | some largest =>
      have hlargest := hroom largest (List.mem_cons_of_mem 0 (List.max?_eq_some_iff.mp hmax).1)
      have hbelow : largest < maxId := by omega
      simp only [hbelow, if_true]
      exact hlargest

theorem addNamed_eq_append (hroom : ∀ id ∈ store.userIds, id < maxId) (name : String) :
    store.addNamed name =
      { store with users := store.users ++ [⟨nextId store.userIds, name⟩] } := by
  let user : User := ⟨nextId store.userIds, name⟩
  have hlast : ∀ other ∈ store.users, other.id < user.id := fun other hother =>
    lt_nextId hroom (List.mem_map_of_mem hother)
  simp only [addNamed, insertUser, user, insertById_of_lt hlast]

section Room

variable {count : ℕ}

theorem HasRoomFor.pred (hroom : store.HasRoomFor (count + 1)) : store.HasRoomFor count := by
  intro id hid
  have hle := hroom id hid
  push_cast at hle
  omega

theorem HasRoomFor.lt (hroom : store.HasRoomFor (count + 1)) {id : Int} (hid : id ∈ store.userIds) :
    id < maxId := by
  have hle := hroom id (List.mem_cons_of_mem 0 hid)
  push_cast at hle
  omega

theorem HasRoomFor.addNamed (hroom : store.HasRoomFor (count + 1)) (name : String) :
    (store.addNamed name).HasRoomFor count := by
  have hbelow : ∀ id ∈ 0 :: store.userIds, id < maxId - count := by
    intro id hid
    have hle := hroom id hid
    push_cast at hle
    omega
  have hnext := nextId_le hbelow (by omega)
  intro id hid
  have hcases : id ∈ 0 :: store.userIds ∨ id = nextId store.userIds := by
    rw [addNamed_eq_append fun _ => hroom.lt, userIds, List.map_append] at hid
    simpa [userIds, or_assoc] using hid
  rcases hcases with hold | rfl
  · have hlt := hbelow id hold
    omega
  · omega

end Room

/-! ## All names -/

theorem ensureUsers_cons (store : Store) (name : String) (rest : List String) :
    store.ensureUsers (name :: rest) =
      store.ensureUser name >>= fun next => next.ensureUsers rest :=
  List.foldlM_cons

/-- The users that are added for names stand behind the others, one for each name that is absent. -/
structure Supplies (store : Store) (names : List String) (added : List User) : Prop where
  names : added.map User.name = names.filter (· ∉ store.users.map User.name)
  sorted : SortedBy User.id (store.users ++ added)

section Supplies

variable {rest : List String} {added : List User}

theorem Supplies.behind_present (hsupplies : store.Supplies rest added)
    (hpresent : name ∈ store.users.map User.name) : store.Supplies (name :: rest) added := by
  refine ⟨?_, hsupplies.sorted⟩
  rw [List.filter_cons_of_neg (by simpa using hpresent), hsupplies.names]

theorem Supplies.behind_absent (hroom : ∀ id ∈ store.userIds, id < maxId)
    (hsupplies : (store.addNamed name).Supplies rest added)
    (habsent : name ∉ store.users.map User.name) (hfresh : name ∉ rest) :
    store.Supplies (name :: rest) (⟨nextId store.userIds, name⟩ :: added) := by
  obtain ⟨hnames, hsorted⟩ := hsupplies
  rw [addNamed_eq_append hroom] at hnames hsorted
  simp only [List.map_append, List.map_cons, List.map_nil] at hnames
  have hsame : rest.filter (· ∉ store.users.map User.name ++ [name]) =
      rest.filter (· ∉ store.users.map User.name) := by
    apply List.filter_congr
    intro other hother
    have hne : other ≠ name := ne_of_mem_of_not_mem hother hfresh
    simp [hne]
  constructor
  · rw [List.filter_cons_of_pos (by simpa using habsent), ← hsame, List.map_cons, hnames]
  · simpa using hsorted

end Supplies

theorem ensureUsers_eq_ok (hnodup : names.Nodup) (hsorted : SortedBy User.id store.users)
    (hroom : store.HasRoomFor names.length)
    (hone : ∀ name ∈ names, (store.usersNamed name).length ≤ 1) :
    ∃ added, store.ensureUsers names = .ok { store with users := store.users ++ added } ∧
      store.Supplies names added := by
  induction names generalizing store with
  | nil =>
      refine ⟨[], ?_, rfl, ?_⟩
      · rw [List.append_nil]
        rfl
      · rwa [List.append_nil]
  | cons name rest ih =>
      obtain ⟨hfresh, hrest⟩ := List.nodup_cons.mp hnodup
      obtain ⟨hfirst, hlater⟩ := List.forall_mem_cons.mp hone
      have hensures := ensures_ensureUser store name
      rw [ensureUsers_cons]
      generalize store.ensureUser name = result at hensures ⊢
      cases hensures with
      | stopped hmore => omega
      | found honly =>
          obtain ⟨added, hall, hsupplies⟩ := ih hrest hsorted hroom.pred hlater
          have hpresent : name ∈ store.users.map User.name := by
            by_contra habsent
            rw [usersNamed_eq_nil_iff.mpr habsent] at honly
            contradiction
          exact ⟨added, hall, hsupplies.behind_present hpresent⟩
      | added habsent =>
          have hlater' : ∀ other ∈ rest, ((store.addNamed name).usersNamed other).length ≤ 1 := by
            intro other hother
            rw [usersNamed_addNamed (ne_of_mem_of_not_mem hother hfresh)]
            exact hlater other hother
          have hsorted' : SortedBy User.id (store.addNamed name).users :=
            sortedBy_insertById hsorted (nextId_not_mem store.userIds)
          obtain ⟨added, hall, hsupplies⟩ := ih hrest hsorted' (hroom.addNamed name) hlater'
          refine ⟨⟨nextId store.userIds, name⟩ :: added, hall.trans ?_,
            hsupplies.behind_absent (fun _ => hroom.lt) (usersNamed_eq_nil_iff.mp habsent) hfresh⟩
          rw [addNamed_eq_append fun _ => hroom.lt]
          simp

/-- Whichever names come before, one that is not unique stops the run. -/
theorem ensureUsers_eq_error (hnodup : names.Nodup)
    (hmore : ∃ name ∈ names, 1 < (store.usersNamed name).length) :
    ∃ name ∈ names, 1 < (store.usersNamed name).length ∧
      store.ensureUsers names = .error (.ambiguous name) := by
  induction names generalizing store with
  | nil =>
      obtain ⟨name, hname, -⟩ := hmore
      cases hname
  | cons name rest ih =>
      obtain ⟨hfresh, hrest⟩ := List.nodup_cons.mp hnodup
      have hensures := ensures_ensureUser store name
      rw [ensureUsers_cons]
      generalize store.ensureUser name = result at hensures ⊢
      cases result with
      | error cause =>
          cases hensures with
          | stopped hfirst => exact ⟨name, List.mem_cons_self, hfirst, rfl⟩
      | ok next =>
          have hsame : ∀ other ∈ rest, next.usersNamed other = store.usersNamed other :=
            fun other hother => hensures.usersNamed (ne_of_mem_of_not_mem hother hfresh)
          obtain ⟨other, hother, hmany⟩ := hmore
          have hother : other ∈ rest := by
            rcases List.mem_cons.mp hother with rfl | hother
            · cases hensures with
              | added habsent => simp [habsent] at hmany
              | found honly => simp [honly] at hmany
            · exact hother
          rw [← hsame other hother] at hmany
          obtain ⟨found, hfound, hmany, hstop⟩ := ih hrest ⟨other, hother, hmany⟩
          rw [hsame found hfound] at hmany
          exact ⟨found, List.mem_cons_of_mem name hfound, hmany, hstop⟩

/-- Where every name is there once, nothing is added. -/
theorem ensureUsers_eq_self (hone : ∀ name ∈ names, (store.usersNamed name).length = 1) :
    store.ensureUsers names = .ok store := by
  induction names with
  | nil => rfl
  | cons name rest ih =>
      obtain ⟨hfirst, hlater⟩ := List.forall_mem_cons.mp hone
      obtain ⟨user, honly⟩ := List.length_eq_one_iff.mp hfirst
      have hfound : store.ensureUser name = .ok store := by
        unfold ensureUser
        rw [honly]
      rw [ensureUsers_cons, hfound]
      exact ih hlater

theorem Supplies.length_usersNamed {added : List User} (hsupplies : store.Supplies names added)
    (hnodup : names.Nodup) (hname : name ∈ names)
    (hone : (store.usersNamed name).length ≤ 1) :
    (usersNamed { store with users := store.users ++ added } name).length = 1 := by
  rw [Store.length_usersNamed] at hone ⊢
  rw [List.map_append, List.count_append, hsupplies.names]
  by_cases hpresent : name ∈ store.users.map User.name
  · have hsome := List.count_pos_iff.mpr hpresent
    have hnone : (names.filter (· ∉ store.users.map User.name)).count name = 0 :=
      List.count_eq_zero.mpr (by simpa using fun _ => hpresent)
    omega
  · have hnone := List.count_eq_zero.mpr hpresent
    have hadded : (names.filter (· ∉ store.users.map User.name)).count name = 1 := by
      apply List.count_eq_one_of_mem (hnodup.filter _)
      exact List.mem_filter.mpr ⟨hname, by simpa using hpresent⟩
    omega

/-! ## What startup keeps -/

theorem Keyed.ensureUser {store after : Store} {name : String} (hkeyed : store.Keyed)
    (hensure : store.ensureUser name = .ok after) : after.Keyed := by
  unfold Store.ensureUser at hensure
  split at hensure
  · obtain rfl := Except.ok.inj hensure
    exact hkeyed.insertUser (nextId_not_mem store.userIds)
  · obtain rfl := Except.ok.inj hensure
    exact hkeyed
  · cases hensure

theorem Keyed.ensureUsers {names : List String} {store after : Store} (hkeyed : store.Keyed)
    (hensure : store.ensureUsers names = .ok after) : after.Keyed := by
  induction names generalizing store with
  | nil =>
      obtain rfl := Except.pure_eq_ok_iff.mp hensure
      exact hkeyed
  | cons name rest ih =>
      simp only [Store.ensureUsers, List.foldlM_cons, Except.bind_eq_ok_iff] at hensure
      obtain ⟨next, hnext, hrest⟩ := hensure
      exact ih (hkeyed.ensureUser hnext) hrest

/-- Startup has nothing to do with the actors. -/
theorem ensureUsers_actors {names : List String} {store after : Store}
    (hensure : store.ensureUsers names = .ok after) : after.actors = store.actors := by
  apply Except.foldlM_preserves (p := fun reached => reached.actors = store.actors) ?_ rfl hensure
  intro reached name next hname hsame hnext
  unfold ensureUser at hnext
  split at hnext
  · obtain rfl := Except.ok.inj hnext
    exact hsame
  · obtain rfl := Except.ok.inj hnext
    exact hsame
  · cases hnext

/-! ## In a transaction -/

theorem addUser_named (store : Store) (name : String) :
    store.addUser (.str name) .null =
      .ok (⟨nextId store.userIds, name⟩, store.addNamed name) := by
  have hfree : store.userIds.contains (nextId store.userIds) = false := by
    simpa using nextId_not_mem store.userIds
  show (if store.userIds.contains (nextId store.userIds) then _ else _) = _
  rw [hfree]
  rfl

/-- With the users that wait, a transaction has the rows of a store. -/
structure Transaction.Holds (transaction : Transaction) (store : Store) : Prop where
  waiting : ∃ names : List String, transaction.waiting = names.map .addUser ∧
    names.foldl addNamed transaction.written = store

/-- None of the users that wait is refused. -/
theorem Transaction.Holds.flush {transaction : Transaction} (hholds : transaction.Holds store) :
    transaction.flush = .ok { transaction with written := store, waiting := [] } := by
  obtain ⟨names, hwaiting, rfl⟩ := hholds.waiting
  have hwrite : ∀ start : Transaction, (names.map Edit.addUser).foldlM write start =
      .ok { start with written := names.foldl addNamed start.written } := by
    clear hwaiting hholds
    induction names with
    | nil => exact fun start => rfl
    | cons name rest ih =>
        intro start
        have hfirst : start.write (.addUser name) =
            .ok { start with written := start.written.addNamed name } := by
          rw [write, addUser_named]
          rfl
        rw [List.map_cons, List.foldlM_cons, hfirst]
        exact ih _
  rw [Transaction.flush, hwaiting, hwrite]

section Work

variable {transaction : Transaction}

/-- A name is looked for as if all was written at once, and whoever is missing waits. -/
theorem during_ensureUser (hholds : transaction.Holds store) (name : String) :
    match store.ensureUser name with
    | .ok after => ∃ later, (Service.ensureUser name).during transaction = (.ok (), later) ∧
        later.Holds after
    | .error cause =>
        ∃ later, (Service.ensureUser name).during transaction = (.error cause, later) := by
  have hflushed : (Work.flush.mapError StartFailure.refused).during transaction =
      (.ok (), { transaction with written := store, waiting := [] }) := by
    rw [Work.during_mapError, Work.during_flush, hholds.flush]
    rfl
  unfold Service.ensureUser Store.ensureUser
  rw [Work.during_bind, hflushed]
  simp only [Work.during_bind, Work.during_read]
  rcases store.usersNamed name with _ | ⟨user, _ | ⟨second, rest⟩⟩
  · exact ⟨_, rfl, ⟨[name], rfl, rfl⟩⟩
  · exact ⟨_, rfl, ⟨[], rfl, rfl⟩⟩
  · exact ⟨_, rfl⟩

theorem during_forM_ensureUser (hholds : transaction.Holds store) (names : List String) :
    match store.ensureUsers names with
    | .ok after => ∃ later, (names.forM Service.ensureUser).during transaction = (.ok (), later) ∧
        later.Holds after
    | .error cause =>
        ∃ later, (names.forM Service.ensureUser).during transaction = (.error cause, later) := by
  induction names generalizing store transaction with
  | nil => exact ⟨transaction, rfl, hholds⟩
  | cons name rest ih =>
      have hfirst := during_ensureUser hholds name
      have hsteps : (name :: rest).forM Service.ensureUser =
          Service.ensureUser name >>= fun _ => rest.forM Service.ensureUser := rfl
      rw [ensureUsers_cons, hsteps]
      simp only [Work.during_bind]
      generalize store.ensureUser name = result at hfirst ⊢
      cases result with
      | error cause =>
          obtain ⟨later, hlater⟩ := hfirst
          exact ⟨later, by rw [hlater]⟩
      | ok next =>
          obtain ⟨later, hlater, hnext⟩ := hfirst
          rw [hlater]
          exact ih hnext

end Work
end Store

namespace Service

open Store

variable {settings : Settings} {store : Store}

theorem commitsNothing_ensureUser (name : String) : (ensureUser name).CommitsNothing := by
  refine (Work.commitsNothing_flush.mapError _).bind fun _ => ?_
  refine (Work.commitsNothing_read _).bind fun users => ?_
  rcases users with _ | ⟨user, _ | ⟨second, rest⟩⟩
  · exact Work.commitsNothing_wait _
  · exact Work.commitsNothing_pure _
  · exact Work.commitsNothing_throw _

theorem ensureUsers_eq (names : List String) :
    ensureUsers names = (do
      names.forM ensureUser
      Work.commit.mapError .refused
      pure ()) := by
  simp only [ensureUsers, bind_pure_unit]

theorem commitsLast_ensureUsers (names : List String) :
    (ensureUsers names).CommitsLast .refused :=
  ⟨Unit, names.forM ensureUser, fun _ => pure (), .forM commitsNothing_ensureUser,
    fun _ _ => rfl, ensureUsers_eq names⟩

/-- Startup takes its decisions as if it wrote at once, and a startup that fails leaves nothing. -/
theorem start_of_ensureUsers (hsettings : settings.isProduction = false) :
    start settings store =
      match store.ensureUsers firstUsers with
      | .ok after => (.ok (), after)
      | .error cause => (.error cause, store) := by
  have hbegin : (Transaction.on store).Holds store := ⟨[], rfl, rfl⟩
  have hprepare := during_forM_ensureUser hbegin firstUsers
  rw [start, hsettings, ensureUsers_eq,
    Work.on_committed (.forM commitsNothing_ensureUser) (fun _ _ => rfl)]
  generalize store.ensureUsers firstUsers = result at hprepare ⊢
  cases result with
  | error cause =>
      obtain ⟨later, hlater⟩ := hprepare
      simp only [hlater, Bool.false_eq_true, if_false]
  | ok after =>
      obtain ⟨later, hlater, hholds⟩ := hprepare
      simp only [hlater, hholds.flush, Bool.false_eq_true, if_false]
      rfl

/-- Startup leaves the store as it was, or all its users are there. -/
theorem start_store (settings : Settings) (store : Store) :
    (start settings store).2 = store ∨
      store.ensureUsers firstUsers = .ok (start settings store).2 := by
  cases hsettings : settings.isProduction with
  | true =>
      left
      rw [start, hsettings]
      rfl
  | false =>
      rw [start_of_ensureUsers hsettings]
      cases hall : store.ensureUsers firstUsers with
      | error cause => exact .inl rfl
      | ok after => exact .inr rfl

theorem firstUsers_nodup : firstUsers.Nodup := by decide

/-- Startup outside of production: it adds what is missing, or nothing. -/
structure Starts (settings : Settings) (store : Store) : Prop where
  succeeds_iff : (start settings store).1 = .ok () ↔
    ∀ name ∈ firstUsers, (store.users.map User.name).count name ≤ 1
  /-- One row for each of the names that is absent, in their order, behind all other rows. -/
  adds : (start settings store).1 = .ok () → ∃ added,
    (start settings store).2 = { store with users := store.users ++ added } ∧
    added.map User.name = firstUsers.filter (· ∉ store.users.map User.name) ∧
    SortedBy User.id (store.users ++ added)
  again : (start settings store).1 = .ok () →
    start settings (start settings store).2 = (.ok (), (start settings store).2)
  keeps : ∀ cause, (start settings store).1 = .error cause →
    (start settings store).2 = store ∧
      ∃ name, cause = .ambiguous name ∧ 1 < (store.users.map User.name).count name

theorem starts_of_ambiguous (hsettings : settings.isProduction = false)
    (hmore : ∃ name ∈ firstUsers, 1 < (store.usersNamed name).length) : Starts settings store := by
  obtain ⟨name, hname, hmany, hstop⟩ := Store.ensureUsers_eq_error firstUsers_nodup hmore
  have hstart : start settings store = (.error (.ambiguous name), store) := by
    rw [start_of_ensureUsers hsettings, hstop]
  rw [Store.length_usersNamed] at hmany
  constructor
  · rw [hstart]
    refine ⟨nofun, fun hone => ?_⟩
    have hle := hone name hname
    omega
  · rw [hstart]
    exact nofun
  · rw [hstart]
    exact nofun
  · rw [hstart]
    rintro _ ⟨⟩
    exact ⟨rfl, name, rfl, hmany⟩

theorem starts_of_unique (hsettings : settings.isProduction = false)
    (hsorted : SortedBy User.id store.users) (hroom : store.HasRoomFor firstUsers.length)
    (hone : ∀ name ∈ firstUsers, (store.usersNamed name).length ≤ 1) : Starts settings store := by
  obtain ⟨added, hall, hsupplies⟩ :=
    Store.ensureUsers_eq_ok firstUsers_nodup hsorted hroom hone
  have hstart : start settings store =
      (.ok (), { store with users := store.users ++ added }) := by
    rw [start_of_ensureUsers hsettings, hall]
  constructor
  · rw [hstart]
    refine ⟨fun _ name hname => ?_, fun _ => rfl⟩
    rw [← Store.length_usersNamed]
    exact hone name hname
  · rw [hstart]
    exact fun _ => ⟨added, rfl, hsupplies.names, hsupplies.sorted⟩
  · rw [hstart]
    intro _
    have hself := Store.ensureUsers_eq_self fun name hname =>
      hsupplies.length_usersNamed firstUsers_nodup hname (hone name hname)
    rw [start_of_ensureUsers hsettings, hself]
  · rw [hstart]
    exact nofun

/-- In production startup changes nothing.  Elsewhere, with room for three more ids, it succeeds if
and only if none of its names is there twice.  Then it adds the names that are absent, and after
that it finds nothing to do.  If it fails, what it has written until then is lost. -/
theorem startup_adds_what_is_missing (settings : Settings) (store : Store) :
    (settings.isProduction = true → start settings store = (.ok (), store)) ∧
    (settings.isProduction = false → SortedBy User.id store.users →
      (∀ user ∈ store.users, user.id + 3 ≤ Store.maxId) → Starts settings store) := by
  constructor
  · intro hsettings
    rw [start, hsettings]
    rfl
  · intro hsettings hsorted hroom
    have hids : store.HasRoomFor firstUsers.length := by
      intro id hid
      rcases List.mem_cons.mp hid with rfl | hid
      · decide
      · obtain ⟨user, huser, rfl⟩ := List.mem_map.mp hid
        exact hroom user huser
    by_cases hone : ∀ name ∈ firstUsers, (store.usersNamed name).length ≤ 1
    · exact starts_of_unique hsettings hsorted hids hone
    · simp only [not_forall, not_le, exists_prop] at hone
      exact starts_of_ambiguous hsettings hone

/-- Bob keeps the row that he has.  A second Charlie stops startup when Alice and Bob are written
already, and they are lost. -/
theorem startup_adds_what_is_missing_second_charlie :
    let short : Store := { users := [⟨-7, "Bob"⟩, ⟨12, "Dana"⟩] }
    let twice : Store := { users := [⟨1, "Charlie"⟩, ⟨2, "Charlie"⟩] }
    (Starts {} short ∧ start {} short =
      (.ok (), { users := short.users ++ [⟨13, "Alice"⟩, ⟨14, "Charlie"⟩] })) ∧
    Starts {} twice ∧ start {} twice = (.error (.ambiguous "Charlie"), twice) ∧
      ((ensureUsers firstUsers).during (.on twice)).2.written.users =
        twice.users ++ [⟨3, "Alice"⟩, ⟨4, "Bob"⟩] := by
  intro short twice
  obtain ⟨-, hshort⟩ := startup_adds_what_is_missing {} short
  obtain ⟨-, htwice⟩ := startup_adds_what_is_missing {} twice
  have hshortSorted : SortedBy User.id short.users := by simp [SortedBy, short]
  have htwiceSorted : SortedBy User.id twice.users := by simp [SortedBy, twice]
  exact ⟨⟨hshort rfl hshortSorted (by decide), rfl⟩, htwice rfl htwiceSorted (by decide), rfl, rfl⟩

end Service
end Tabletop
