import Widgetry.Registry.Check
import Widgetry.Json.Decode

/-! Registries as data texts. -/

namespace Widgetry

open Json

namespace Json.Decoder

def argumentKind : Decoder ArgumentKind :=
  variant [("constant", .constant), ("string", .string)]

def argumentSpec : Decoder ArgumentSpec :=
  Layout.decode
    { name := "ArgSpec"
      fields := [("key", true), ("kind", true), ("optional", false)]
      put := fun key v a =>
        match key with
        | "key" => do return { a with key := ← string v }
        | "kind" => do return { a with kind := ← argumentKind v }
        | "optional" => do return { a with optional := ← bool v }
        | _ => .ok a }
    ⟨"", .string, false⟩

def hostSubstitution : Decoder HostSubstitution :=
  Layout.decode
    { name := "HostSubstitution"
      fields := [("element", true), ("cssClass", true)]
      put := fun key v h =>
        match key with
        | "element" => do return { h with element := ← string v }
        | "cssClass" => do return { h with cssClass := ← string v }
        | _ => .ok h }
    ⟨"", ""⟩

def mapping : Decoder Mapping :=
  Layout.decode
    { name := "MappingEntry"
      fields :=
        [("requiresInstance", false), ("runtimeClass", false), ("constructorArgs", false),
         ("postInit", false), ("constantNamespaces", false), ("emittedComponent", false),
         ("hostSubstitution", false), ("slotName", false), ("passthroughProps", false)]
      put := fun key v m =>
        match key with
        | "requiresInstance" => do return { m with requiresInstance := ← bool v }
        | "runtimeClass" => do return { m with runtimeClass := ← optional string v }
        | "constructorArgs" => do return { m with constructorArgs := ← list argumentSpec v }
        | "postInit" => do return { m with postInit := ← list argumentSpec v }
        | "constantNamespaces" => do
          return { m with constantNamespaces := .ofList (← entries string v) }
        | "emittedComponent" => do return { m with emittedComponent := ← optional string v }
        | "hostSubstitution" => do
          return { m with hostSubstitution := ← optional hostSubstitution v }
        | "slotName" => do return { m with slotName := ← optional string v }
        | "passthroughProps" => do return { m with passthroughProps := ← list string v }
        | _ => .ok m }
    {}

def menuTerms : Decoder MenuTerms :=
  Layout.decode
    { name := "MenuConfig"
      fields :=
        [("menuKind", true), ("menuItemKind", true), ("submenuConstant", true),
         ("titleAttribute", true), ("itemsField", true), ("submenuField", true)]
      put := fun key v t =>
        match key with
        | "menuKind" => do return { t with menuKind := ← string v }
        | "menuItemKind" => do return { t with menuItemKind := ← string v }
        | "submenuConstant" => do return { t with submenuConstant := ← string v }
        | "titleAttribute" => do return { t with titleAttribute := ← string v }
        | "itemsField" => do return { t with itemsField := ← string v }
        | "submenuField" => do return { t with submenuField := ← string v }
        | _ => .ok t }
    ⟨"", "", "", "", "", ""⟩

def registry : Decoder Registry :=
  Layout.decode
    { name := "Registry"
      fields :=
        [("version", true), ("runtimePackage", true), ("ambientInstance", true), ("menu", true),
         ("elements", true)]
      put := fun key v r =>
        match key with
        | "version" => do return { r with version := ← string v }
        | "runtimePackage" => do return { r with runtimePackage := ← string v }
        | "ambientInstance" => do return { r with ambientInstance := ← string v }
        | "menu" => do return { r with menu := ← menuTerms v }
        | "elements" => do return { r with elements := .ofList (← entries mapping v) }
        | _ => .ok r }
    ⟨"", "", "", ⟨"", "", "", "", "", ""⟩, .empty⟩

end Json.Decoder

/-- The consistent registry of a text. -/
def Registry.ofText (text : String) : Except Fault Registry :=
  match Decoder.registry.text text with
  | .error fault => .error (.of (.registry (.unreadable fault.message)))
  | .ok r => do
    r.check
    return r

end Widgetry
