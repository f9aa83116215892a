import Traceability.Document.Basic
import Traceability.Yaml.Printer

/-! # Writing documents to files -/
namespace Traceability.Document

open Number

def stamped (d : Document) (today : Date) : Document := { d with lastUpdated := some today.toText }

def fileText (d : Document) : Except IntegerError String := Yaml.dump d.toEntries

/-- The same contents in every record; the order of free entries does not matter. -/
def same (a b : Document) : Bool := a.toValue.same b.toValue

end Traceability.Document
