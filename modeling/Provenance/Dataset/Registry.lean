import Provenance.Dataset.Rule
import Provenance.Dictionary
import Provenance.Text.Quoted

/-!
# Naming registries

A registry holds a naming rule for each scheme that it supports.  A compound scheme such as
`jdbc:postgresql` falls back on the rule of the part in front of its first colon, its *family*.
A rule is registered under the scheme in small letters, and looked up under the scheme as it is.
-/

namespace Provenance

/-- A location whose scheme has no naming rule. -/
structure UnsupportedScheme where
  scheme : String
  location : String
  deriving Repr, DecidableEq

/-- The wording of the error. -/
def UnsupportedScheme.message (e : UnsupportedScheme) : String :=
  "no naming rule for scheme '" ++ e.scheme ++ "' (location " ++ e.location ++ ")"

/-- The naming rules by scheme. -/
structure NamingRegistry where
  rules : Dictionary NamingRule

namespace NamingRegistry

/-- The registry without any rule. -/
def empty : NamingRegistry := ⟨.empty⟩

/-- Register the rule of a scheme in place of one that it may have had. -/
def register (r : NamingRegistry) (scheme : String) (rule : NamingRule) : NamingRegistry :=
  ⟨r.rules.insert (String.ofList (scheme.toList.map Char.toLower)) rule⟩

/-- The schemes whose systems have an authority. -/
def authoritySchemes : List String :=
  ["hdfs", "webhdfs", "viewfs", "s3", "s3a", "s3n", "gs", "wasb", "wasbs", "abfs", "abfss"]

/-- The registry of the storage systems in use. -/
def standard : NamingRegistry :=
  let r := empty.register "file" .localFile
  let r := authoritySchemes.foldl (fun r s => r.register s .byAuthority) r
  r.register "jdbc" .database

/-- The part of a scheme in front of its first colon, if it has one. -/
def family? (scheme : String) : Option String :=
  match scheme.toList.span (· ≠ ':') with
  | (family, _ :: _) => some (String.ofList family)
  | _ => none

/-- The rule of a scheme, or else of its family. -/
def rule? (r : NamingRegistry) (scheme : String) : Option NamingRule :=
  (r.rules.get? scheme).or ((family? scheme).bind r.rules.get?)

/-- Whether a scheme has a rule. -/
def supports (r : NamingRegistry) (scheme : String) : Bool :=
  (r.rule? scheme).isSome

/-- The dataset at a location. -/
def normalize (r : NamingRegistry) (l : Location) : Except UnsupportedScheme Dataset :=
  match r.rule? l.scheme with
  | some rule => .ok (rule.normalize l)
  | none => .error ⟨l.scheme, l.toText⟩

/-- The schemes that have rules, as a diagnostic description. -/
def describe (r : NamingRegistry) : String :=
  "SchemeRegistry \x7b schemes: [" ++ ", ".intercalate (r.rules.keys.map Text.quoted) ++ "] \x7d"

end NamingRegistry

end Provenance
