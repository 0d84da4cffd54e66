import Provenance.Dataset
import Provenance.Location

/-!
# Naming rules

A naming rule says which dataset is stored at a location.  Three rules cover the storage systems in
use: one for files of the local machine, one for systems that are told apart by an authority (a
cluster, a bucket, a container), and one for databases behind a driver.
-/

namespace Provenance

open Text

/-- How the locations of a scheme are named. -/
structure NamingRule where
  normalize : Location → Dataset

namespace NamingRule

/-- The path of a location, the empty path being the root. -/
def rootedPath (l : Location) : String :=
  if l.path.isEmpty then "/" else l.path

/-- Files of the local machine: the scheme is the namespace and the path the name. -/
def localFile : NamingRule where
  normalize l := ⟨l.scheme, rootedPath l⟩

/-- Systems with an authority: scheme and authority are the namespace and the path the name. -/
def byAuthority : NamingRule where
  normalize l :=
    let system := match l.authority with
      | some authority => l.scheme ++ "://" ++ authority
      | none => l.scheme
    ⟨system, rootedPath l⟩

/-- The driver that a scheme names, with or without `jdbc:` in front. -/
def driver (scheme : String) : String :=
  let cs := scheme.toList
  let lead := ['j', 'd', 'b', 'c', ':']
  if lead.isPrefixOf cs then String.ofList (cs.drop lead.length) else scheme

/-- Databases: driver and authority are the namespace, and the path without its leading slashes the
name. -/
def database : NamingRule where
  normalize l :=
    ⟨driver l.scheme ++ "://" ++ l.authority.getD "",
      String.ofList (l.path.toList.dropWhile (· == '/'))⟩

end NamingRule

end Provenance
