import Bindery.Config.Basic
import Bindery.Toml.Reader
import Bindery.Toml.Record

/-!
# Configurations on paper

The TOML form of a configuration: a table for each of its parts, in which every missing setting
has its default.  Settings that nobody knows are ignored.
-/

namespace Bindery

open Toml

/-- The framework's conventions from their TOML form. -/
def Framework.ofToml? (v : Toml) : Option Framework := do
  let default : Framework := {}
  match ← fields? ["main_module", "main_stem", "root_class", "namespace_prefix", "reserved_prefix",
      "string_class", "private_signal_marker", "module_prefix", "guard_prefix"] v with
  | [mainModule, mainStem, rootClass, namespacePrefix, reservedPrefix, stringClass,
      privateSignalMarker, modulePrefix, guardPrefix] =>
    return {
      mainModule := ← defaulted? text? default.mainModule mainModule
      mainStem := ← defaulted? text? default.mainStem mainStem
      rootClass := ← defaulted? text? default.rootClass rootClass
      namespacePrefix := ← defaulted? text? default.namespacePrefix namespacePrefix
      reservedPrefix := ← defaulted? text? default.reservedPrefix reservedPrefix
      stringClass := ← defaulted? text? default.stringClass stringClass
      privateSignalMarker := ← defaulted? text? default.privateSignalMarker privateSignalMarker
      modulePrefix := ← defaulted? text? default.modulePrefix modulePrefix
      guardPrefix := ← defaulted? text? default.guardPrefix guardPrefix }
  | _ => none

/-- A blocked virtual from its TOML form. -/
def BlockedVirtual.ofToml? (v : Toml) : Option BlockedVirtual := do
  match ← fields? ["function", "class"] v with
  | [method, owner] =>
    return { method := ← required? text? method, owner := ← required? text? owner }
  | _ => none

/-- What is left out, from its TOML form. -/
def Exclusions.ofToml? (v : Toml) : Option Exclusions := do
  let default : Exclusions := {}
  match ← fields? ["excluded_classes", "excluded_functions", "no_subclass", "no_object_name",
      "blocked_virtuals"] v with
  | [classes, methods, noSubclass, noObjectName, blockedVirtuals] =>
    return {
      classes := ← defaulted? (list? text?) default.classes classes
      methods := ← defaulted? (list? text?) default.methods methods
      noSubclass := ← defaulted? (list? text?) default.noSubclass noSubclass
      noObjectName := ← defaulted? (list? text?) default.noObjectName noObjectName
      blockedVirtuals :=
        ← defaulted? (list? BlockedVirtual.ofToml?) default.blockedVirtuals blockedVirtuals }
  | _ => none

/-- The aliases from the TOML form of the type settings. -/
def aliasesOfToml? (v : Toml) : Option (List (String × String)) := do
  match ← fields? ["aliases"] v with
  | [aliases] => defaulted? texts? defaultAliases aliases
  | _ => none

/-- A platform include from its TOML form. -/
def PlatformInclude.ofToml? (v : Toml) : Option PlatformInclude := do
  match ← fields? ["fragment", "suffix"] v with
  | [fragment, suffix] =>
    return { fragment := ← required? text? fragment, suffix := ← required? text? suffix }
  | _ => none

/-- The layout from its TOML form. -/
def Layout.ofToml? (v : Toml) : Option Layout := do
  let default : Layout := {}
  match ← fields? ["directory", "header_extension", "source_extension", "platform_includes"] v with
  | [directory, headerExtension, sourceExtension, platformIncludes] =>
    return {
      directory := ← defaulted? (fun v => (text? v).map some) default.directory directory
      headerExtension := ← defaulted? text? default.headerExtension headerExtension
      sourceExtension := ← defaulted? text? default.sourceExtension sourceExtension
      platformIncludes :=
        ← defaulted? (list? PlatformInclude.ofToml?) default.platformIncludes platformIncludes }
  | _ => none

/-- A configuration from its TOML form. -/
def Config.ofToml? (v : Toml) : Option Config := do
  match ← fields? ["framework", "filter", "types", "output"] v with
  | [framework, exclusions, types, layout] =>
    return {
      framework := ← defaulted? Framework.ofToml? {} framework
      exclusions := ← defaulted? Exclusions.ofToml? {} exclusions
      aliases := ← defaulted? aliasesOfToml? defaultAliases types
      layout := ← defaulted? Layout.ofToml? {} layout }
  | _ => none

/-- The configuration that a text describes, if it is usable. -/
def Config.parse (s : String) : Except ConfigError Config :=
  match (Toml.parse? s).bind Config.ofToml? with
  | none => .error .malformed
  | some c => c.validate

end Bindery
