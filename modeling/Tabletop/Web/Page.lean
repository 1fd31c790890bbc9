import Tabletop.Store
import Tabletop.Text.Number

/-!
# Pages

There are two pages: the dice roller, with a form for those who are signed in,
and a list of users to sign in as.  Texts that users chose are escaped, so that
they cannot become markup.
-/

namespace Tabletop
namespace Web
namespace Page

def appName : String := "Shrine"

/-- A character as it stands in the text of a page. -/
def escapeChar (c : Char) : List Char :=
  if c = '&' then "&amp;".toList
  else if c = '<' then "&lt;".toList
  else if c = '>' then "&gt;".toList
  else if c = '"' then "&#34;".toList
  else if c = '\'' then "&#39;".toList
  else [c]

def escape (text : String) : String := String.ofList (text.toList.flatMap escapeChar)

def layout (title content : String) : String :=
  "<!doctype html>\n" ++
  "<html lang=\"en\">\n" ++
  "<head>\n" ++
  "  <meta charset=\"utf-8\">\n" ++
  "  <title>" ++ title ++ "</title>\n" ++
  "</head>\n" ++
  "<body>\n" ++
  "  <header><h1>" ++ appName ++ "</h1></header>\n" ++
  "  <main>" ++ content ++ "</main>\n" ++
  "</body>\n" ++
  "</html>"

/-- The form that rolls dice, and the button that signs out. -/
def rollForm : String :=
  "  <form id=\"roll-form\">\n" ++
  "    <input name=\"expr\" placeholder=\"1d20+DEX\" autocomplete=\"off\">\n" ++
  "    <button type=\"submit\">Roll</button>\n" ++
  "  </form>\n" ++
  "  <pre id=\"roll-result\"></pre>\n" ++
  "  <form method=\"post\" action=\"/dev/logout\">" ++
  "<button type=\"submit\">Log out</button></form>\n" ++
  "  <script>\n" ++
  "    document.getElementById(\"roll-form\").addEventListener(\"submit\", " ++
  "async (event) => \x7b\n" ++
  "      event.preventDefault();\n" ++
  "      const expr = event.target.elements.expr.value;\n" ++
  "      const response = await fetch(\"/api/dice/roll\", \x7b\n" ++
  "        method: \"POST\",\n" ++
  "        headers: \x7b\"Content-Type\": \"application/json\"\x7d,\n" ++
  "        body: JSON.stringify(\x7bexpr\x7d),\n" ++
  "      \x7d);\n" ++
  "      document.getElementById(\"roll-result\").textContent =\n" ++
  "        JSON.stringify(await response.json(), null, 2);\n" ++
  "    \x7d);\n" ++
  "  </script>\n"

/-- The link for those who are not signed in. -/
def signInLink : String := "  <p><a href=\"/dev/login\">Sign in</a> to roll.</p>\n"

def index (signedIn : Bool) : String :=
  layout appName <|
    "\n<section id=\"dice-roller\">\n" ++
    "  <h2>Dice roller</h2>\n" ++
    "  \n" ++
    (if signedIn then rollForm else signInLink) ++
    "  \n" ++
    "</section>\n"

def option (user : User) : String :=
  "    \n" ++
  "    <option value=\"" ++ Text.Decimal.text user.id ++ "\">" ++ escape user.name ++
  "</option>\n"

/-- The users by name, character by character, and by id where the names are equal. -/
def byName (users : List User) : List User :=
  users.mergeSort fun a b => decide ¬b.name < a.name

/-- The list of users to sign in as. -/
def login (users : List User) : String :=
  layout ("Dev login · " ++ appName) <|
    "\n<h2>Dev login</h2>\n" ++
    "<form method=\"post\" action=\"/dev/login\">\n" ++
    "  <select name=\"user_id\">\n" ++
    String.join ((byName users).map option) ++
    "    \n" ++
    "  </select>\n" ++
    "  <button type=\"submit\">Log in</button>\n" ++
    "</form>\n"

end Page
end Web
end Tabletop
