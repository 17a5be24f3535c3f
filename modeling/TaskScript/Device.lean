/-!
# Devices

A device is a file that stands for something other than stored bytes: nothing at all, a stream of
the command, or a place without room. What reading it gives and what becomes of bytes written to it
are all that a command can tell of it.
-/

namespace TaskScript

/-- Why a file cannot be read or written. -/
inductive FileError where
  | missing
  | noDevice
  | denied
  | notFolder
  | isFolder
  | noSpace
  | nameTooLong
  /-- There is no end to what is read. -/
  | endless
  /-- Any other failure of the system, in its words. -/
  | other (text : String)
deriving DecidableEq

namespace FileError

/-- The text of the error, with its number where it has one. -/
def message : FileError → String
  | missing => "No such file or directory (os error 2)"
  | noDevice => "No such device or address (os error 6)"
  | denied => "Permission denied (os error 13)"
  | notFolder => "Not a directory (os error 20)"
  | isFolder => "Is a directory (os error 21)"
  | noSpace => "No space left on device (os error 28)"
  | nameTooLong => "File name too long (os error 36)"
  | endless => "out of memory"
  | other text => text

end FileError

/-- Where bytes come from. -/
inductive Origin where
  | bytes (content : ByteArray)
  /-- The standard input, which can be read only once. -/
  | stdin

/-- Where bytes go. -/
inductive Sink where
  | file
  | stdout
  | stderr
  /-- They are forgotten. -/
  | nowhere
  /-- The first of them meets a failure. -/
  | failing (error : FileError)
deriving DecidableEq

/-- A file that stands for something other than stored bytes. -/
structure Device where
  origin : Except FileError Origin
  sink : Except FileError Sink

namespace Device

/-- Has nothing and forgets everything. -/
def null : Device := ⟨.ok (.bytes .empty), .ok .nowhere⟩

/-- Never ends and forgets everything. -/
def source : Device := ⟨.error .endless, .ok .nowhere⟩

/-- Never ends and has no room. -/
def full : Device := ⟨.error .endless, .ok (.failing .noSpace)⟩

/-- The terminal of a command that has none. -/
def terminal : Device := ⟨.error .noDevice, .error .noDevice⟩

/-- The standard input. What is written to it is read by nobody. -/
def stdin : Device := ⟨.ok .stdin, .ok .nowhere⟩

/-- The standard output. There is nothing in it to read. -/
def stdout : Device := ⟨.ok (.bytes .empty), .ok .stdout⟩

/-- The standard error. There is nothing in it to read. -/
def stderr : Device := ⟨.ok (.bytes .empty), .ok .stderr⟩

end Device

end TaskScript
