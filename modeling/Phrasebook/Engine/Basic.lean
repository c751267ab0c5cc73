import Phrasebook.Instance
import Phrasebook.Mapper
import Phrasebook.Resolver.BuiltIn

/-!
# Engines

An engine is its chains of resolvers and mappers, its initializers of instances
and its settings. Everything that changes while an engine works is in its
`EngineState`.
-/

namespace Phrasebook

/-- A resolver of the first parts under one namespace. -/
structure NamespaceResolver where
  qualifier : String
  resolver : Resolver

/-- An engine. The chains are in the order in which they are asked. -/
structure Engine where
  resolvers : Chain
  namespaces : Dictionary Chain
  mappers : List Mapper
  initializers : List Initializer
  config : Config

namespace Engine

/-- Groups namespace resolvers by namespace, each group in the order of
registration. -/
def grouped (resolvers : List NamespaceResolver) : Dictionary (List Resolver) :=
  resolvers.foldl (fun groups (one : NamespaceResolver) =>
    groups.insert one.qualifier
      ((groups.get? one.qualifier).getD [] ++ [one.resolver])) []

/-- The engine of resolvers, mappers and initializers in the order of
registration. -/
def build (resolvers : List Resolver) (namespaces : List NamespaceResolver)
    (mappers : List Mapper)
    (initializers : List Initializer) (config : Config) : Engine where
  resolvers := .ofResolvers resolvers
  namespaces := (grouped namespaces).map fun (qualifier, resolvers) =>
    (qualifier, .ofResolvers resolvers)
  mappers := Mapper.chain mappers
  initializers := initializers
  config := config

/-- Registers one more namespace resolver. -/
def addNamespace (engine : Engine) (one : NamespaceResolver) : Engine :=
  let chain : Chain := (engine.namespaces.get? one.qualifier).getD []
  { engine with
    namespaces :=
      engine.namespaces.insert one.qualifier
        (.ofResolvers (chain ++ [one.resolver])) }

def hasNamespace (qualifier : String) (engine : Engine) : Bool :=
  engine.namespaces.contains qualifier

/-- A new instance of a template, after the initializers. -/
def instantiate (engine : Engine) (template : Template) (state : EngineState) :
    Instance × EngineState :=
  engine.initializers.foldl (fun (target, state) initializer =>
    initializer target state)
    ({ template }, state)

def debugText (engine : Engine) : String :=
  "Engine \x7b resolvers: " ++ toString engine.resolvers.length ++
    ", namespaces: [" ++
    String.intercalate ", " (engine.namespaces.keys.map Text.quoted) ++
      "], mappers: " ++
    toString engine.mappers.length ++ ", config: " ++ engine.config.debugText ++
      ", .. \x7d"

end Engine

def Template.debugText (template : Template) : String :=
  "Template \x7b id: " ++ Text.quoted template.id ++ ", generated_id: " ++
    Text.quoted template.generatedId ++ ", nodes: " ++
      toString template.nodes.length ++ " \x7d"

end Phrasebook
