/-!
# Refusals of the operating system

The reasons for which a file cannot be opened or read, or an address cannot be listened on.
-/

namespace Webhook

/-- A reason of the operating system. -/
inductive SystemFault where
  /-- There is no such file. -/
  | missing
  /-- The file may not be read, or the port may not be used. -/
  | forbidden
  /-- A directory was expected along the way. -/
  | notDirectory
  /-- The file is a directory. -/
  | isDirectory
  /-- The name is too long. -/
  | longName
  /-- The address is in use. -/
  | addressInUse
  /-- The address belongs to another machine. -/
  | foreignAddress
  deriving DecidableEq, Repr

namespace SystemFault

/-- The number of a reason. -/
def number : SystemFault → Nat
  | missing => 2
  | forbidden => 13
  | notDirectory => 20
  | isDirectory => 21
  | longName => 36
  | addressInUse => 98
  | foreignAddress => 99

/-- The words for a reason. -/
def words : SystemFault → String
  | missing => "No such file or directory"
  | forbidden => "Permission denied"
  | notDirectory => "Not a directory"
  | isDirectory => "Is a directory"
  | longName => "File name too long"
  | addressInUse => "Address already in use"
  | foreignAddress => "Cannot assign requested address"

/-- What the user is told: the words and the number. -/
def message (f : SystemFault) : String := f.words ++ " (os error " ++ toString f.number ++ ")"

end SystemFault
end Webhook
