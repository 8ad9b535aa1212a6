import ParsecCloud.Lib.Utf8

/- Entry names (libparsec_types, fs_path.rs): UTF-8 strings of at most 255 bytes. The
   normalization form C of a string comes from the unicode_normalization crate, and is a
   parameter of what builds names. -/
namespace ParsecCloud
open Rust

inductive EntryNameError where
  | nameTooLong
  | invalidName
  deriving DecidableEq, Repr

def EntryName.maxLengthBytes : Nat := 255

def EntryName.isValid (raw : List Char) : Except EntryNameError Unit :=
  if utf8Len raw > maxLengthBytes then .error .nameTooLong
  else if raw = [] ∨ raw = ['.'] ∨ raw = ['.', '.'] ∨ '/' ∈ raw ∨ '\x00' ∈ raw then
    .error .invalidName
  else .ok ()

structure EntryName where
  chars : List Char
  valid : EntryName.isValid chars = .ok ()
  deriving DecidableEq

/-- The conversion from a string. -/
def EntryName.parse (nfc : List Char → List Char) (raw : List Char) :
    Except EntryNameError EntryName :=
  match check : EntryName.isValid (nfc raw) with
  | .ok () => .ok ⟨nfc raw, check⟩
  | .error e => .error e

def entryA : EntryName := ⟨['a'], by decide⟩
def entryB : EntryName := ⟨['b'], by decide⟩

end ParsecCloud
