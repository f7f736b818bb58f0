import LintBridge.Value.Basic
/-!
Merging of layered settings. Mappings are merged key by key at every depth; any other
value of the upper layer replaces what lies below it.
-/
namespace LintBridge.Config

open Value

mutual
/-- An upper value over a lower one. -/
def overlay : Value → Value → Value
  | upper, lower =>
    match upper with
    | .map es =>
      match lower with
      | .map base => .map (overlayEntries base es)
      | _ => .map es
    | v => v
termination_by structural upper => upper
/-- The entries of an upper mapping over those of a lower one. -/
def overlayEntries : Entries → List (Value × Value) → Entries
  | base, [] => base
  | base, e :: rest => overlayEntries (overlayEntry base e) rest
termination_by structural _ es => es
/-- One upper entry over a lower mapping. -/
def overlayEntry : Entries → Value × Value → Entries
  | base, (k, v) =>
    match base.get? k with
    | some lower => base.put k (overlay v lower)
    | none => base.put k v
termination_by structural _ e => e
end

/-- An upper mapping over a lower one: the lower keys keep their order and come first. -/
def merge (base upper : Entries) : Entries := overlayEntries base upper

end LintBridge.Config
