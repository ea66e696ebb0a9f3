import EndpointDocs.Text.Blank
import EndpointDocs.Text.Digit
import EndpointDocs.Value.Basic

/-!
# The demo handlers

* `Demo.hello`, `Demo.login`, `Demo.userDetail?`, `Demo.createOrder`: what the demo answers.
-/

namespace EndpointDocs.Demo

def hello (name : String) : String := "Hello, " ++ name ++ "!"

/-- The answer to a login: it fails if the name or the password is blank. -/
def login (username password : String) : Value :=
  let user := Text.trim username.toList
  if user.isEmpty || (Text.trim password.toList).isEmpty then .object [
    ("status", .text "error"),
    ("user", .null),
    ("message", .text "Username and password must not be empty")]
  else .object [
    ("status", .text "ok"),
    ("user", .text (String.ofList user)),
    ("message", .null)]

/-- The answer on a user. -/
def user (id : Nat) (name status : String) : Value := .object [
  ("id", .int id),
  ("name", .text name),
  ("status", .text status),
  ("tags", .list []),
  ("address", .null)]

/-- A user by a key of digits; none if the digits have no decimal value. -/
def userDetail? (id : String) : Option Value :=
  let cs := id.toList
  if cs.isEmpty || !cs.all Text.isDigit then some (user 0 "" "error")
  else (Text.decimalNumber? cs).map fun n => user n ("User_" ++ id) "ok"

def createOrder (order : Value) : Value := .object [
  ("code", .int 200),
  ("msg", .text "Order Created Successfully"),
  ("data", order)]

end EndpointDocs.Demo
