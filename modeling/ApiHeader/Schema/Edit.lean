/-
# Editing a schema by hand

The ways of changing the list of types. Adding a type and rebuilding the index
keep lookups in step with the list; every other edit leaves the index as it was.
-/

import ApiHeader.Schema.Basic

namespace ApiHeader.Schema

/-- One change to the types of a schema. -/
inductive Edit
  /-- Declare a type and index it. -/
  | add (definition : TypeDef)
  /-- Put a type at the end of the list only. -/
  | push (definition : TypeDef)
  /-- Remove the type at a place; the later ones move up. -/
  | remove (place : Nat)
  /-- Exchange the types at two places. -/
  | swap (first second : Nat)
  /-- Keep the first types only. -/
  | truncate (size : Nat)
  /-- Change the type at a place. -/
  | modify (place : Nat) (change : TypeDef → TypeDef)
  | clear
  /-- Index every type anew. -/
  | rebuild

/-- The types with those at two places exchanged; a place outside the list has
nothing to give. -/
def swapTypes (types : List TypeDef) (first second : Nat) : List TypeDef :=
  match types[first]?, types[second]? with
  | some a, some b => (types.set first b).set second a
  | _, _ => types

/-- Carry out an edit. -/
def edit (schema : Schema) : Edit → Schema
  | .add definition => schema.addType definition
  | .push definition => { schema with types := schema.types ++ [definition] }
  | .remove place => { schema with types := schema.types.eraseIdx place }
  | .swap first second => { schema with types := swapTypes schema.types first second }
  | .truncate size => { schema with types := schema.types.take size }
  | .modify place change => { schema with types := schema.types.modify place change }
  | .clear => { schema with types := [] }
  | .rebuild => schema.rebuildIndex

/-- Add a member to a structure; other definitions have none. -/
def TypeDef.addMember (added : Member) : TypeDef → TypeDef
  | .struct definition => .struct { definition with members := definition.members ++ [added] }
  | other => other

/-- Add a method to a structure; other definitions have none. -/
def TypeDef.addMethod (added : Function) : TypeDef → TypeDef
  | .struct definition => .struct { definition with methods := definition.methods.insert added }
  | other => other

/-- Add an entry to an enumeration or a bitmask; other definitions have none. -/
def TypeDef.addEntry (added : Entry) : TypeDef → TypeDef
  | .enumeration definition =>
    .enumeration { definition with entries := definition.entries ++ [added] }
  | .bitmask definition => .bitmask { definition with entries := definition.entries ++ [added] }
  | other => other

/-- An entry of an enumeration or a bitmask. -/
def TypeDef.entry? (name : String) : TypeDef → Option Entry
  | .enumeration definition | .bitmask definition => definition.entry? name
  | _ => none

end ApiHeader.Schema
