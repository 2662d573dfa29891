import HostAccess.Client
import HostAccess.Proofs.JsonValue

/-!
# The body of a command is read back

The body of a command is a JSON object of three members, and what was put into them is read back.
-/
namespace HostAccess.Client

def bodyMembers (method : String) (args : List Json.Value) (options : Json.Members) :
    Json.Members :=
  [("method", .text method), ("params", .list [.list args, .object options]), ("id", .text "0")]

theorem commandBody_eq (method : String) (args : List Json.Value) (options : Json.Members) :
    commandBody method args options =
      (Json.Value.object (bodyMembers method args options)).render := by
  have hm : "\x7b\"method\":" = "\x7b" ++ Json.quote "method" ++ ":" := by decide
  have hp : ",\"params\":[" = "," ++ Json.quote "params" ++ ":" ++ "[" := by decide
  have hi : "],\"id\":\"0\"\x7d" =
      "]" ++ "," ++ Json.quote "id" ++ ":" ++ Json.quote "0" ++ "\x7d" := by decide
  delta commandBody
  rw [hm, hp, hi]
  simp only [bodyMembers, Json.Value.render, Json.renderMembers, Json.renderItems,
    String.append_assoc, String.append_empty]

/-- **What a command says is read back from its body.** -/
theorem read_commandBody (method : String) {args : List Json.Value} {options : Json.Members}
    (hargs : Json.Plain (Json.deepest - 2) (.list args))
    (hoptions : Json.Plain (Json.deepest - 2) (.object options)) :
    Json.read (Utf8.encode (commandBody method args options)) = some (.object
      [("id", .text "0"), ("method", .text method),
        ("params", .list [.list args, .object options])]) := by
  have each : ∀ m ∈ bodyMembers method args options, Json.Plain (Json.deepest - 1) m.2 := by
    intro m hm
    simp only [bodyMembers, List.mem_cons, List.not_mem_nil, or_false] at hm
    rcases hm with rfl | rfl | rfl
    · exact .text method
    · refine .list fun v hv => ?_
      simp only [List.mem_cons, List.not_mem_nil, or_false] at hv
      rcases hv with rfl | rfl
      · exact hargs
      · exact hoptions
    · exact .text "0"
  rw [commandBody_eq, Json.read_object each]
  rfl

end HostAccess.Client
