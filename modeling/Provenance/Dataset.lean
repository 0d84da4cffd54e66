/-!
# Datasets

A *dataset* is the identity under which stored data is reported: a namespace, which names the
storage system, and a name within it.
-/

namespace Provenance

/-- A namespace and a name within it. -/
structure Dataset where
  namespaceName : String
  name : String
  deriving Repr, DecidableEq

namespace Dataset

/-- The dataset as text: namespace and name with a slash between them. -/
def toText (d : Dataset) : String :=
  d.namespaceName ++ "/" ++ d.name

instance : ToString Dataset := ⟨toText⟩

/-- Datasets are ordered by namespace, and within a namespace by name. -/
def le (a b : Dataset) : Bool :=
  a.namespaceName < b.namespaceName || (a.namespaceName = b.namespaceName && !(b.name < a.name))

/-- A list of datasets in order. -/
def sort (ds : List Dataset) : List Dataset :=
  ds.mergeSort le

end Dataset

end Provenance
