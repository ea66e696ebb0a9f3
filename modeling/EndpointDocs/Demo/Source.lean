import EndpointDocs.Entries

/-!
# The source of the demo module

* `Demo.sourceLines`: the lines of the demo module as it is shipped.
* `Demo.files`: the shipped file under its path.
-/

namespace EndpointDocs.Demo

/-- The module of the demo handlers. -/
def module : String := "api_dashboard.demo"

/-- The lines of the demo module. -/
def sourceLines : List String := [
  "## Demo",
  "#  Shows how handler comments and type hints become API documentation,",
  "#  with no extra schema annotations.",
  "\"\"\"Demo handlers documented only through comments and type hints.\"\"\"",
  "",
  "from dataclasses import dataclass, field",
  "from typing import Annotated, Any",
  "",
  "from pydantic import BaseModel",
  "",
  "from api_dashboard.routing import Body, RouteRegistry",
  "",
  "registry = RouteRegistry()",
  "",
  "",
  "## Order payload.",
  "@dataclass",
  "class OrderRequest:",
  "    ## Business status code",
  "    code: int",
  "    ## Human readable message",
  "    msg: str",
  "    ## Free-form order attributes",
  "    data: dict[str, Any] = field(default_factory=dict)",
  "",
  "",
  "class Address(BaseModel):",
  "    ## City name",
  "    city: str",
  "    ## Postal code",
  "    zip: str",
  "",
  "",
  "## User profile returned by the detail endpoint.",
  "class UserDetail(BaseModel):",
  "    ## Numeric user ID",
  "    id: int",
  "    ## Display name",
  "    name: str",
  "    ## Account status (ok | error)",
  "    status: str",
  "    ## Tags attached to the user",
  "    tags: list[str] = []",
  "    ## Home address",
  "    address: Address | None = None",
  "",
  "",
  "## Login result.",
  "class LoginResult(BaseModel):",
  "    ## ok or error",
  "    status: str",
  "    ## Trimmed user name",
  "    user: str | None = None",
  "    ## Error message, when status is error",
  "    message: str | None = None",
  "",
  "",
  "## Hello World",
  "#  The simplest GET request.",
  "#  Returns a plain greeting string.",
  "#  @param name who to greet",
  "@registry.get(\"/demo/hello\")",
  "def hello(name: str = \"World\") -> str:",
  "    return f\"Hello, \x7bname\x7d!\"",
  "",
  "",
  "## Create order (POST JSON)",
  "#  Exercises JSON request body synthesis from the OrderRequest structure.",
  "@registry.post(\"/demo/order\")",
  "def create_order(order: Annotated[OrderRequest, Body()]) -> dict[str, Any]:",
  "    return \x7b\"code\": 200, \"msg\": \"Order Created Successfully\", \"data\": order\x7d",
  "",
  "",
  "## User login (form)",
  "#  Username and password must not be blank.",
  "#  @param username user name (required)",
  "#  @param password password (required)",
  "#  @return login result",
  "@registry.post(\"/demo/login\")",
  "def login(username: str, password: str) -> LoginResult:",
  "    if not username.strip() or not password.strip():",
  "        return LoginResult(status=\"error\", " ++
    "message=\"Username and password must not be empty\")",
  "    return LoginResult(status=\"ok\", user=username.strip())",
  "",
  "",
  "## User detail (path variable)",
  "#  Only numeric IDs are accepted.",
  "#  @param id user ID, digits only",
  "@registry.get(\"/demo/users/\x7bid\x7d\")",
  "def get_user_detail(id: str) -> UserDetail:",
  "    if not id.isdigit():",
  "        return UserDetail(id=0, name=\"\", status=\"error\")",
  "    return UserDetail(id=int(id), name=f\"User_\x7bid\x7d\", status=\"ok\")",
  ""]

/-- The shipped files. -/
def files : List (String × ByteArray) :=
  [("api_dashboard/demo.py", ("\n".intercalate sourceLines).toUTF8)]

end EndpointDocs.Demo
