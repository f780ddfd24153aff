import Rskrb5.Messages

namespace Rskrb5

open Lib.Results

namespace Keytab

structure Entry where
  principal : Principal
  timestamp : UInt32
  kvno8 : UInt8
  key : EncryptionKey
  kvno : UInt32
  deriving DecidableEq

inductive Error
  | noMatchingKey (principal realm : String) (kvno : UInt32) (etype : Int32)
  deriving DecidableEq

end Keytab

structure Keytab where
  version : UInt8
  entries : List Keytab.Entry
  deriving DecidableEq

namespace Keytab

def Entry.matches (entry : Entry) (principalComponents : List String) (realm : String) (kvno : UInt32)
    (etype : Int32) : Bool :=
  entry.principal.realm == realm
    && entry.principal.components.length == principalComponents.length
    && (entry.principal.components.zip principalComponents).all (fun pair ↦ pair.1 == pair.2)
    && entry.key.etype == etype
    && (kvno == 0 || entry.kvno == kvno)

/-- One turn of the search: a match replaces an older selection only when it is newer. -/
def select (selected : Option Entry) (entry : Entry) : Option Entry :=
  match selected with
  | some current => if current.timestamp ≥ entry.timestamp then some current else some entry
  | none => some entry

def findKey (keytab : Keytab) (principalComponents : List String) (realm : String) (kvno : UInt32)
    (etype : Int32) : Except Error (EncryptionKey × UInt32) :=
  let selected := keytab.entries.foldl (fun selected entry ↦
    if entry.matches principalComponents realm kvno etype then select selected entry else selected) none
  okOr (selected.map fun entry ↦ (entry.key, entry.kvno))
    (.noMatchingKey ("/".intercalate principalComponents) realm kvno etype)

end Keytab

end Rskrb5
