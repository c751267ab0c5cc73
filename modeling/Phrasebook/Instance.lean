import Phrasebook.Resolver.Basic

/-!
# Instances

An instance of a template is the data of one render and what goes with it.
Bindings are explicit values and computed bindings, whose suppliers run when a
lookup first needs them; attributes are never visible to resolvers; callbacks
run once after the next successful render.
-/

namespace Phrasebook

/-- The supplier of a computed binding, given the key of the binding and the
number of the call, counted from one. -/
abbrev Supplier := Services → String → Nat → Scene → Resolved Scene × Scene

/-- A supplier that has nothing. -/
def Supplier.nothing : Supplier := fun _ _ _ scene => (.notFound, scene)

/-- What the names of suppliers stand for. -/
abbrev Suppliers := String → Supplier

/-- Names that stand for nothing. -/
def Suppliers.none : Suppliers := fun _ => .nothing

/-- Data for lookups, and the suppliers that its computed bindings are
registered with. -/
structure Bindings where
  data : RenderData := .empty
  suppliers : Suppliers := .none

namespace Bindings

/-- The explicit value of a key. -/
def get? (key : String) (bindings : Bindings) : Option Json :=
  bindings.data.get? key

def set (key : String) (value : Json) (bindings : Bindings) : Bindings :=
  { bindings with data := bindings.data.set key value }

/-- Sets explicit values in order. -/
def setAll (values : List (String × Json)) (bindings : Bindings) : Bindings :=
  values.foldl (fun bindings (key, value) => bindings.set key value) bindings

/-- Registers a computed binding with the supplier of a name. -/
def setComputed (key supplier : String) (bindings : Bindings) : Bindings :=
  { bindings with data := bindings.data.setComputed key supplier }

/-- Whether a key has an explicit value or a computed binding. -/
def contains (key : String) (bindings : Bindings) : Bool :=
  bindings.data.contains key

/-- Diagnostic text of bindings: the explicit values and the keys of the
computed ones. -/
def debugText (bindings : Bindings) : String :=
  let explicit := bindings.data.explicit.map fun (key, value) =>
    Text.quoted key ++ ": " ++ value.debugText
  let computed := bindings.data.computed.keys.map Text.quoted
  "RenderData \x7b explicit: \x7b" ++ String.intercalate ", " explicit ++
    "\x7d, computed: [" ++
    String.intercalate ", " computed ++ "] \x7d"

end Bindings

/-- Out-of-band metadata of an instance. -/
inductive Attribute where
  | text (value : String)
  | flag (value : Bool)
  | integer (value : Int)
  | value (value : Json)
  deriving Repr

/-- A callback: what it reports when it fires, and the callbacks that it
registers then. -/
inductive Callback where
  | mk (report : String) (registers : List Callback)
  deriving Repr

namespace Callback

def report : Callback → String
  | .mk report _ => report

def registers : Callback → List Callback
  | .mk _ registers => registers

end Callback

/-- One logical render of a template. -/
structure Instance where
  template : Template
  bindings : Bindings := {}
  attributes : Dictionary Attribute := []
  callbacks : List Callback := []

namespace Instance

def updateBindings (change : Bindings → Bindings) (target : Instance) :
    Instance :=
  { target with bindings := change target.bindings }

def setAttribute (key : String) (value : Attribute) (target : Instance) :
    Instance :=
  { target with attributes := target.attributes.insert key value }

def onComplete (callback : Callback) (target : Instance) : Instance :=
  { target with callbacks := target.callbacks ++ [callback] }

/-- Fires the callbacks registered so far, in order. Those that they register
wait for the next successful render. -/
def fire (target : Instance) (state : EngineState) : Instance × EngineState :=
  ({ target with callbacks := target.callbacks.flatMap Callback.registers },
    target.callbacks.foldl (fun state callback =>
      state.log (.note callback.report)) state)

def debugText (target : Instance) : String :=
  "TemplateInstance \x7b template: " ++ Text.quoted target.template.id ++
    ", data: " ++
    target.bindings.debugText ++ ", .. \x7d"

end Instance

/-- A hook that every new instance of an engine goes through. -/
abbrev Initializer := Instance → EngineState → Instance × EngineState

end Phrasebook
