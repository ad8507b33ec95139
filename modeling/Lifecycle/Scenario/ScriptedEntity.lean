import Lifecycle.Scenario.Action

/-! Entities whose hooks are written down. Calling a hook leaves a remark in the entity's log and
runs the actions listed for it.
-/

namespace Lifecycle.Scenario

/-- An entity whose hooks are lists of actions. -/
structure ScriptedEntity (ν : Type) where
  type : EntityType
  tenancy : Option Bool
  auditable : Bool
  recorded : AuditStamps
  autoValidate : Bool
  errors : List String
  hooks : Hook → List (Action ν)
  log : List (Remark ν)

def Edit.apply {ν : Type} (entity : ScriptedEntity ν) : Edit → ScriptedEntity ν
  | .created instant => { entity with recorded.created := instant }
  | .updated instant => { entity with recorded.updated := instant }
  | .errors texts => { entity with errors := texts }
  | .autoValidate enabled => { entity with autoValidate := enabled }
  | .auditable enabled => { entity with auditable := enabled }
  | .tenancy multiTenant => { entity with tenancy := multiTenant }

namespace ScriptedEntity

variable {ν : Type}

/-- A new entity of a type: auditable without stamps, valid, and without actions for its hooks.
-/
def ofType (type : EntityType) : ScriptedEntity ν where
  type := type
  tenancy := none
  auditable := true
  recorded := ⟨none, none⟩
  autoValidate := true
  errors := []
  hooks _ := []
  log := []

def remark (entity : ScriptedEntity ν) (remarks : List (Remark ν)) : ScriptedEntity ν :=
  { entity with log := entity.log ++ remarks }

/-- What a hook of a scripted entity runs. -/
abbrev HookScript (ν : Type) :=
  Script (ScriptedEntity ν) Memory (ScriptedEntity ν) (Except Failure Decision)

def changing (change : ScriptedEntity ν → ScriptedEntity ν) (next : HookScript ν)
    : HookScript ν :=
  .access (fun (entity, memory) => (change entity, memory)) (fun _ => next)

/-- Runs actions in order, up to the first that ends the hook. -/
def perform : List (Action ν) → HookScript ν
  | [] => .done (.ok .proceed)
  | .veto :: _ => .done (.ok .veto)
  | .proceed :: _ => .done (.ok .proceed)
  | .fail cause :: _ => .done (.error cause)
  | .edit change :: rest => changing (fun entity => change.apply entity) (perform rest)
  | .note value :: rest => changing (fun entity => entity.remark [.noted value]) (perform rest)
  | .snapshot :: rest =>
      changing (fun entity => entity.remark [.stamps entity.recorded]) (perform rest)
  | .callback call :: rest =>
      call.script (fun remark =>
        changing (fun entity => entity.remark remark.toList) (perform rest))

/-- Calls a hook: remarks in the log, then the actions listed for it. A plain type has no hooks.
-/
def call (entity : ScriptedEntity ν) (remarks : List (Remark ν)) (hook : Hook) : HookScript ν :=
  if entity.type.plain then .done (.ok .proceed)
  else
    changing (fun entity => entity.remark (remarks ++ [.called hook]))
      (perform (entity.hooks hook))

/-- What is remarked of a notice before its hook is called. -/
def remarksOn : Notice → List (Remark ν)
  | .beforeValidate fields => [.fields fields]
  | _ => []

/-- Scripted entities are entities. A hook that decides nothing ends well with any decision. -/
instance : Entity (ScriptedEntity ν) Memory where
  cls entity := entity.type.classOf entity.tenancy
  stamps entity :=
    if entity.auditable && !entity.type.plain then some entity.recorded else none
  withStamps entity stamps := { entity with recorded := stamps }
  autoValidate entity := entity.type.plain || entity.autoValidate
  validationErrors entity := if entity.type.plain then [] else entity.errors
  before entity write := entity.call [] (.before write)
  receive entity notice :=
    (entity.call (remarksOn notice) notice.hook).map (fun result => result.map (fun _ => ()))

end ScriptedEntity

end Lifecycle.Scenario
