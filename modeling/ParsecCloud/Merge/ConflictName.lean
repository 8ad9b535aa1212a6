import ParsecCloud.Lib.CountedSearch
import ParsecCloud.Types.EntryName

/- The names given to entries that compete for one name (merge.rs). -/
namespace ParsecCloud
open Rust CountedSearch

def i32Max : Nat := 2147483647

def filenameConflictSuffix : List Char := "Parsec - name conflict".toList

def buildName (hasLeadingDot : Bool) (suffix base : List Char) (extension : Option (List Char)) :
    List Char :=
  let named := base ++ " (".toList ++ suffix ++ ")".toList
  let full :=
    match extension with
    | some extension => named ++ '.' :: extension
    | none => named
  if hasLeadingDot then '.' :: full else full

/-- The attempts with one extension: 10 bytes of the base name are cut as long as the name is
    too long. The bound is the length of the base name, so it is not met before the base name
    is down to 10 bytes. -/
def tryBases (parse : List Char → Except EntryNameError EntryName) (build : List Char → List Char) :
    Nat → List Char → Checked (Option EntryName)
  | bound, base =>
    match parse (build base) with
    | .ok name => .ok (some name)
    | .error .invalidName => .error (.assert "internal error: entered unreachable code")
    | .error .nameTooLong =>
      if utf8Len base > 10 then
        match bound with
        | 0 => .ok none
        | bound + 1 =>
          match takeBytes base (utf8Len base - 10) with
          | some shorter => tryBases parse build bound shorter
          | none => .error (.expect "already checked")
      else .ok none

/-- When the base name cannot be cut any more, the leftmost extension is dropped and the whole
    base name tried again. There are fewer extensions than characters in them. -/
def tryExtensions (parse : List Char → Except EntryNameError EntryName)
    (build : List Char → Option (List Char) → List Char) (base : List Char) :
    Nat → Option (List Char) → Checked EntryName
  | bound, extension => do
    match ← tryBases parse (build · extension) (utf8Len base) base with
    | some name => return name
    | none =>
      match extension, bound with
      | some kept, bound + 1 =>
        tryExtensions parse build base bound ((splitOnce '.' kept).map Prod.snd)
      | _, _ => .error (.expect "must contain extension")

def renameWithSuffix (nfc : List Char → List Char) (name : EntryName) (suffix : List Char) :
    Checked EntryName :=
  let (raw, hasLeadingDot) :=
    match name.chars with
    | '.' :: rest => (rest, true)
    | chars => (chars, false)
  let (base, extension) :=
    match splitOnce '.' raw with
    | none => (raw, none)
    | some (base, extension) => (base, some extension)
  tryExtensions (EntryName.parse nfc) (buildName hasLeadingDot suffix) base
    (extension.elim 0 (·.length + 1)) extension

def suffixWithCount (suffix : List Char) (count : Nat) : List Char :=
  if count = 1 then suffix else suffix ++ ' ' :: (toString count).toList

/-- The loop over the counts. The count is an i32. -/
def getConflictFilename (nfc : List Char → List Char) (filename : EntryName) (suffix : List Char)
    (reserved : Finset EntryName) : Checked EntryName :=
  search (fun count => renameWithSuffix nfc filename (suffixWithCount suffix count)) reserved
    (i32Max - 1) 1

end ParsecCloud
