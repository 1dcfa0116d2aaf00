import VelaEdge.Cloud.Persistence

/-! The project and the edge that a tool call is confined to. They come with the call's context;
its arguments may name them again, or narrow a scope that leaves one of them open. -/
namespace VelaEdge.Cloud

open Base Core Text

def nonBlank (raw : String) : Option String :=
  if trim raw = "" then none else some (trim raw)

/-- A text field of an object; a blank one counts as absent. -/
def optionalString (value : Json) (key : String) : Except String (Option String) :=
  match value.get key with
  | none => pure none
  | some .null => pure none
  | some raw => do
      let raw ← context raw.asStr s!"`{key}` must be a string"
      pure (nonBlank raw)

def restrictScope (field : String) (allowed requested : Option String) :
    Except String (Option String) := do
  bailIf (allowed.isSome ∧ requested.isSome ∧ allowed ≠ requested)
    s!"requested `{field}` is outside the active Agent scope"
  pure (requested <|> allowed)

structure AgentToolScope where
  projectId : Option String
  edgeId : Option String
deriving DecidableEq

namespace AgentToolScope

def fromContext (callContext : Json) : Except String AgentToolScope := do
  let scope := (callContext.get "scope").getD .null
  let projectId ← optionalString scope "projectId"
  let edgeId ← optionalString scope "edgeId"
  pure ⟨projectId,edgeId⟩

def resolveProject (scope : AgentToolScope) (arguments : Json) : Except String (Option String) := do
  restrictScope "projectId" scope.projectId (← optionalString arguments "projectId")

def resolveEdge (scope : AgentToolScope) (arguments : Json) : Except String (Option String) := do
  restrictScope "edgeId" scope.edgeId (← optionalString arguments "edgeId")

end AgentToolScope

def ensureNonEmpty (label value : String) : Except String Unit :=
  bailIf (trim value = "") s!"{label} is required"

def ensureEdgeScope (store : CloudControlStore) (projectId : Option String) (edgeId : String) :
    Except String EdgeNode := do
  let edge ← context (store.edgeNodes.values.find? fun edge => edge.edgeId = edgeId)
    "edge does not exist"
  bailIf (projectId.isSome ∧ edge.projectId ≠ projectId)
    "edge is outside the active Agent project scope"
  pure edge

@[simp] theorem nonBlank_eq_some {text : String} :
    nonBlank raw = some text ↔ text ≠ "" ∧ trim raw = text := by
  unfold nonBlank
  split
  · next hb =>
    rw [hb]
    exact ⟨(nomatch ·),fun h => absurd h.2.symm h.1⟩
  · next ht =>
    rw [Option.some_inj]
    exact ⟨fun h => ⟨h ▸ ht,h⟩,fun h => h.2⟩

@[simp] theorem nonBlank_trim (raw : String) : nonBlank (trim raw) = nonBlank raw := by
  rw [nonBlank,nonBlank,trim_trim]

@[simp] theorem restrictScope_eq_ok {allowed requested : Option String} :
    restrictScope field allowed requested = .ok resolved ↔
      (allowed.isSome → requested.isSome → allowed = requested) ∧
        resolved = (requested <|> allowed) := by
  simp only [restrictScope,bind_eq_ok,bailIf_eq_ok,exists_const,not_and,not_not]
  exact and_congr_right fun _ => ⟨fun h => (Except.ok.inj h).symm,fun h => h ▸ rfl⟩

@[simp] theorem find_edgeId (store : CloudControlStore) (edgeId : String) :
    (store.edgeNodes.values.find? fun edge => edge.edgeId = edgeId) = store.edgeNodes.get edgeId :=
  Registry.find_key store.edgeNodes edgeId

@[simp] theorem ensureEdgeScope_eq_ok {store : CloudControlStore} :
    ensureEdgeScope store proj edgeId = .ok edge ↔
      store.edgeNodes.get edgeId = some edge ∧ (proj.isSome → edge.projectId = proj) := by
  simp only [ensureEdgeScope,bind_eq_ok,context_eq_ok,bailIf_eq_ok,exists_const,not_and,
    not_not,find_edgeId]
  constructor
  · rintro ⟨found,hf,hp,hs⟩
    cases hs
    exact ⟨hf,hp⟩
  · rintro ⟨hf,hp⟩
    exact ⟨edge,hf,hp,rfl⟩

end VelaEdge.Cloud
