import Tabletop.Proofs.Service.Answers
import Tabletop.Proofs.Web.Markup

/-!
# The users that are shown for signing in

Outside of production everybody is shown the users.  The page lists each of them once, and
two services that show the same page have the same users.
-/

namespace Tabletop
namespace Web

/-!
## The page that lists the users

However the users are called, the page is read as the page without users, with two pieces
of markup for each user in it: the tag of an option that has the user's id, and the name
in front of the tag that ends the option.  So ids and names can be read off the page
again, each user once.
-/

namespace Listing

open Text Markup Reading

/-! ### Reading options off -/

/-- What the options among pieces of markup have as values, each with the text behind it. -/
def options : List Piece → List (Option (List Char) × List Char)
  | piece :: next :: rest =>
    if piece.tag.name = "option".toList then
      (piece.tag.value? "value", next.text) :: options (next :: rest)
    else options (next :: rest)
  | _ => []

/-- The ids and names that are read off a page. -/
def rows (page : String) : List (Option Int × String) :=
  (options (readPage page).pieces).map fun (value, text) =>
    (value.map Decimal.readSigned, String.ofList (unescape text))

/-- The markup of the page without users in front of the end of the selection. -/
def front : List Piece :=
  (readPage (Page.login [])).pieces.takeWhile fun piece => piece.tag.name ≠ "/select".toList

/-- The markup of the page without users from the end of the selection on. -/
def back : List Piece :=
  (readPage (Page.login [])).pieces.dropWhile fun piece => piece.tag.name ≠ "/select".toList

/-- Whether a piece has a given tag. -/
def hasName (name : String) (piece : Piece) : Bool := piece.tag.name = name.toList

/-- The option of a user: its tag, and the name in front of its end tag. -/
def optionPieces (user : User) : List Piece :=
  [⟨"\n    \n    ".toList, ⟨"option".toList, [("value".toList, Decimal.signed user.id)]⟩⟩,
    ⟨user.name.toList.flatMap Page.escapeChar, ⟨"/option".toList, []⟩⟩]

/-! ### Options -/

/-- A reader inside the selection, behind a line break. -/
def inSelection (pieces : List Piece) : Reading := ⟨.text, ['\n'], {}, pieces⟩

theorem toList_option (user : User) : (Page.option user).toList =
    "    \n".toList ++ "    <option value=\"".toList ++ Decimal.signed user.id ++ "\">".toList ++
      user.name.toList.flatMap Page.escapeChar ++ "</option>\n".toList := by
  simp only [Page.option, Decimal.text, Page.escape, String.toList_append, String.toList_ofList]

theorem readAll_option (pieces : List Piece) (user : User) :
    (inSelection pieces).readAll (Page.option user).toList =
      inSelection (pieces ++ optionPieces user) := by
  have hopening : (inSelection pieces).readAll
      ("    \n".toList ++ "    <option value=\"".toList) = ⟨.quoted '"', "\n    \n    ".toList,
        ⟨"option".toList, [] ++ [("value".toList, [])]⟩, pieces⟩ := rfl
  have hvalue : '"' ∉ Decimal.signed user.id := by
    intro hquote
    rcases Decimal.mem_signed hquote with hsign | hdigit
    · exact absurd hsign (by decide)
    · exact absurd hdigit (by decide)
  have hname : '<' ∉ user.name.toList.flatMap Page.escapeChar := not_mem_escape (by simp) _
  have hend : ∀ (text : List Char) (tag : Tag) (pieces : List Piece),
      readAll ⟨.quoted '"', text, tag, pieces⟩ "\">".toList =
        ⟨.text, [], {}, pieces ++ [⟨text, tag⟩]⟩ := fun _ _ _ => rfl
  have hclosing : ∀ (text : List Char) (pieces : List Piece),
      readAll ⟨.text, text, {}, pieces⟩ "</option>\n".toList =
        inSelection (pieces ++ [⟨text, ⟨"/option".toList, []⟩⟩]) := fun _ _ => rfl
  rw [toList_option, readAll_append, readAll_append, readAll_append, readAll_append, hopening,
    readAll_quoted hvalue, hend, readAll_text hname, hclosing]
  simp [optionPieces]

theorem readAll_options (pieces : List Piece) (users : List User) :
    (inSelection pieces).readAll (users.flatMap fun user => (Page.option user).toList) =
      inSelection (pieces ++ users.flatMap optionPieces) := by
  induction users generalizing pieces with
  | nil => simp [readAll]
  | cons user users ih =>
      rw [List.flatMap_cons, readAll_append, readAll_option, ih, List.flatMap_cons,
        List.append_assoc]

/-! ### The page around them -/

theorem readAll_options_of_eq {reading : Reading} (pieces : List Piece) (users : List User)
    (hreading : reading = inSelection pieces) :
    reading.readAll (users.flatMap fun user => (Page.option user).toList) =
      (inSelection []).after (pieces ++ users.flatMap optionPieces) := by
  rw [hreading, readAll_options]
  simp [inSelection, Reading.after]

/-- A reader behind the last tag of a page. -/
def ended (pieces : List Piece) : Reading := ⟨.text, [], {}, pieces⟩

theorem after_ended (earlier pieces : List Piece) :
    (ended pieces).after earlier = ended (earlier ++ pieces) := rfl

@[simp] theorem pieces_ended (pieces : List Piece) : (ended pieces).pieces = pieces := rfl

/-- Whoever is listed, the markup around the options stays the same. -/
theorem readPage_login (users : List User) : readPage (Page.login users) =
    ended (front ++ (Page.byName users).flatMap optionPieces ++ back) := by
  unfold readPage Page.login Page.layout Page.appName
  simp only [String.toList_append, -String.reduceAppend, String.toList_join, List.flatMap_map,
    readAll_append]
  rw [readAll_options_of_eq front]
  simp only [readAll_after]
  rewrite [← after_ended]
  refine congrArg (Reading.after _) ?_
  -- What is left are the texts of the template in front of the options and behind them.
  all_goals
    simp only [front, back]
    unfold readPage Page.login Page.layout Page.appName
    simp only [String.toList_append, -String.reduceAppend, Page.byName, List.mergeSort_nil,
      List.map_nil]
    repeat rewrite [String.toList_ofList]
    decide +kernel

/-- The template has no option of its own, and its selection is where the users are listed. -/
theorem template_around_options : (∀ piece ∈ front ++ back, piece.tag.name ≠ "option".toList) ∧
    front.getLast?.map (·.tag.name) = some "select".toList ∧
    back.head?.map (·.tag.name) = some "/select".toList := by
  unfold front back readPage Page.login Page.layout Page.appName
  simp only [String.toList_append, -String.reduceAppend, Page.byName, List.mergeSort_nil,
    List.map_nil]
  repeat rewrite [String.toList_ofList]
  decide +kernel

/-! ### The order of the users -/

theorem perm_byName (users : List User) : (Page.byName users).Perm users :=
  List.mergeSort_perm users _

/-- The names ascend as a store compares them. -/
theorem pairwise_byName (users : List User) :
    (Page.byName users).Pairwise fun a b => Utf8.encode a.name ≤ Utf8.encode b.name := by
  unfold Page.byName
  refine List.Pairwise.imp ?le (List.pairwise_mergeSort ?trans ?total users)
  case le =>
    intro a b hle
    exact Utf8.encode_le_iff.mpr (String.not_lt.mp (of_decide_eq_true hle))
  case trans =>
    intro a b c hab hbc
    simp only [decide_eq_true_eq, String.not_lt] at hab hbc ⊢
    exact String.le_trans hab hbc
  case total =>
    intro a b
    simp only [Bool.or_eq_true, decide_eq_true_eq, String.not_lt]
    exact String.le_total a.name b.name

/-! ### What is read off -/

theorem options_nil : options [] = [] := rfl

theorem options_append {pieces : List Piece}
    (hpieces : ∀ piece ∈ pieces, piece.tag.name ≠ "option".toList) (rest : List Piece) :
    options (pieces ++ rest) = options rest := by
  induction pieces with
  | nil => rfl
  | cons piece pieces ih =>
      obtain ⟨hpiece, hmore⟩ := List.forall_mem_cons.mp hpieces
      rw [← ih hmore, List.cons_append]
      cases pieces ++ rest with
      | nil => rfl
      | cons next rest => exact if_neg hpiece

theorem options_optionPieces (user : User) (rest : List Piece) :
    options (optionPieces user ++ rest) =
      (some (Decimal.signed user.id), user.name.toList.flatMap Page.escapeChar) ::
        options rest := by
  have hclosing : options ((optionPieces user).tail ++ rest) = options rest :=
    options_append (by simp [optionPieces]) rest
  rw [← hclosing]
  rfl

theorem options_flatMap (users : List User) (rest : List Piece) :
    options (users.flatMap optionPieces ++ rest) =
      users.map (fun user =>
        (some (Decimal.signed user.id), user.name.toList.flatMap Page.escapeChar)) ++
        options rest := by
  induction users with
  | nil => rfl
  | cons user users ih =>
      rw [List.flatMap_cons, List.append_assoc, options_optionPieces, ih, List.map_cons,
        List.cons_append]

theorem rows_login (users : List User) : rows (Page.login users) =
    (Page.byName users).map fun user => (some user.id, user.name) := by
  have hfront := options_append fun piece hpiece =>
    template_around_options.1 piece (List.mem_append_left back hpiece)
  have hback := options_append (fun piece hpiece =>
    template_around_options.1 piece (List.mem_append_right front hpiece)) []
  rw [List.append_nil] at hback
  rw [rows, readPage_login, pieces_ended, List.append_assoc, hfront, options_flatMap, hback,
    options_nil, List.append_nil, List.map_map]
  apply List.map_congr_left
  intro user _
  simp [Decimal.readSigned_signed, unescape_escape]

/-- A page that lists users one by one, in the order in which a store lists their names. -/
structure Lists (page : String) (listed : List User) : Prop where
  /-- There is no other markup on the page than that of the template and of the options. -/
  markup : readPage page = ended (front ++ listed.flatMap optionPieces ++ back)
  count : (readPage page).pieces.countP (hasName "option") = listed.length
  rows : rows page = listed.map fun user => (some user.id, user.name)
  ascending : listed.Pairwise fun a b => Utf8.encode a.name ≤ Utf8.encode b.name

theorem lists_login (users : List User) : Lists (Page.login users) (Page.byName users) where
  markup := readPage_login users
  count := by
    have hnone : (front ++ back).countP (hasName "option") = 0 := by
      rw [List.countP_eq_zero]
      intro piece hpiece hname
      exact template_around_options.1 piece hpiece (of_decide_eq_true hname)
    have hone : ∀ user, (optionPieces user).countP (hasName "option") = 1 := by
      simp [optionPieces, hasName]
    have hsum : ((Page.byName users).flatMap optionPieces).countP (hasName "option") =
        (Page.byName users).length := by
      simp [List.countP_flatMap, Function.comp_def, hone]
    rw [List.countP_append] at hnone
    rw [readPage_login, pieces_ended, List.countP_append, List.countP_append, hsum]
    omega
  rows := rows_login users
  ascending := pairwise_byName users

/-- Only one row of users is listed on a page. -/
theorem Lists.unique {page : String} {listed others : List User} (hlists : Lists page listed)
    (hothers : Lists page others) : listed = others := by
  refine List.map_injective_iff.mpr ?_ (hlists.rows.symm.trans hothers.rows)
  rintro ⟨id, name⟩ ⟨id', name'⟩ hsame
  obtain ⟨hid, rfl⟩ := Prod.mk.inj hsame
  obtain rfl := Option.some.inj hid
  rfl

end Listing
end Web

namespace Service

/-! ## The page of a service -/

open Web Listing

variable {service : Service} {request : Request}

theorem page_injective : Function.Injective Response.page :=
  fun _ _ hsame => Content.page.inj (congrArg Response.content hsame)

theorem reply_of_loginPage (hdev : service.settings.isProduction = false) (client : String)
    (hroute : Route.of request.method request.target = .endpoint .loginPage) :
    (service.handle client request).1 = .ok (.page (Page.login service.store.users)) := by
  have hpage : loginPage service.settings service.store =
      .ok (.page (Page.login service.store.users)) := by
    unfold loginPage guardLogin
    rw [hdev]
    rfl
  rw [handle_reply service client hroute]
  simp only [answer, hroute, visit, hpage, Turn.still]

/-- Each user is listed once and can be read off the page, whatever the names are. -/
theorem login_page_lists_users (hdev : service.settings.isProduction = false) (client : String)
    (hroute : Route.of request.method request.target = .endpoint .loginPage) :
    ∃ page listed, (service.handle client request).1 = .ok (.page page) ∧
      Lists page listed ∧ listed.Perm service.store.users ∧
      ∀ (other : Service) (client' : String) (request' : Request),
        other.settings.isProduction = false →
        Route.of request'.method request'.target = .endpoint .loginPage →
        (other.handle client' request').1 = .ok (.page page) →
        ∀ user, user ∈ other.store.users ↔ user ∈ service.store.users := by
  refine ⟨_, _, reply_of_loginPage hdev client hroute, lists_login service.store.users,
    perm_byName service.store.users, ?_⟩
  intro other client' request' hdev' hroute' hsame user
  have hpage : Page.login other.store.users = Page.login service.store.users := by
    have hreply := (reply_of_loginPage hdev' client' hroute').symm.trans hsame
    exact page_injective (Except.ok.inj hreply)
  have hlists : Lists (Page.login service.store.users) (Page.byName other.store.users) := by
    rw [← hpage]
    exact lists_login other.store.users
  have hlisted : Page.byName other.store.users = Page.byName service.store.users :=
    hlists.unique (lists_login service.store.users)
  rw [← (perm_byName other.store.users).mem_iff, hlisted,
    (perm_byName service.store.users).mem_iff]

/-- A user who is called like an option, and one whose name is escaped already. -/
theorem login_page_lists_users_called_markup :
    let users : List User :=
      [⟨1, "<option value=\"3\">Eve</option>"⟩, ⟨2, "&lt;b&gt;Zoë's&lt;/b&gt;"⟩]
    let service : Service := ⟨{}, { users }, [], .stream (fun _ => .ofGrid 0) 0⟩
    let request : Request := {
      method := "GET"
      target := ⟨"http://test", "test", "test.local", "/dev/login".toList, []⟩ }
    ∃ page listed, (service.handle "ann" request).1 = .ok (.page page) ∧ Lists page listed ∧
      listed.Perm users ∧ (some 1, "<option value=\"3\">Eve</option>") ∈ rows page := by
  intro users service request
  have hdev : service.settings.isProduction = false := by decide
  have hroute : Route.of request.method request.target = .endpoint .loginPage := by
    decide +kernel
  obtain ⟨page, listed, hreply, hlists, hperm, -⟩ := login_page_lists_users hdev "ann" hroute
  refine ⟨page, listed, hreply, hlists, hperm, ?_⟩
  rw [hlists.rows]
  exact List.mem_map_of_mem (hperm.mem_iff.mpr List.mem_cons_self)

end Service
end Tabletop
