/-!
# Names of tools across servers

Tools of several servers are exposed side by side under the name of the
server and the name of the tool, joined by two underscores.
-/

namespace ToolGate.ToolName

/-- What stands between the two names. -/
def separator : String := "__"

/-- The joined name of a tool of a server. -/
def join (server tool : String) : String :=
  server ++ separator ++ tool

/-- Cut a text at the first place where two underscores stand. -/
def cut? : List Char → Option (List Char × List Char)
  | '_' :: '_' :: rest => some ([], rest)
  | c :: rest => (cut? rest).map fun (before, after) => (c :: before, after)
  | [] => none

/-- The server and the tool of a joined name, none of which is empty. -/
def split? (name : String) : Option (String × String) :=
  match cut? name.toList with
  | some (server, tool) =>
      if server.isEmpty || tool.isEmpty then none
      else some (String.ofList server, String.ofList tool)
  | none => none

end ToolGate.ToolName
