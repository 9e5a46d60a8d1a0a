import CodecTables.Text.Quoted

/-!
# Vendors and computer models

The closed lists of vendors of audio hardware and of computer models. Both are told by their
labels, letter by letter.
-/

namespace CodecTables.Resource

/-- The makers of codecs and controllers. -/
inductive Vendor where
  | amd
  | analogDevices
  | cirrusLogic
  | conexant
  | creative
  | idt
  | intel
  | nvidia
  | realtek
  | via
deriving DecidableEq, Repr

namespace Vendor

/-- Every vendor. -/
def all : List Vendor :=
  [amd, analogDevices, cirrusLogic, conexant, creative, idt, intel, nvidia, realtek, via]

/-- The name of a vendor in property lists and in the generated source. -/
def label : Vendor → String
  | amd => "AMD"
  | analogDevices => "AnalogDevices"
  | cirrusLogic => "CirrusLogic"
  | conexant => "Conexant"
  | creative => "Creative"
  | idt => "IDT"
  | intel => "Intel"
  | nvidia => "NVIDIA"
  | realtek => "Realtek"
  | via => "VIA"

/-- The identifier of a vendor on the PCI bus. -/
def id : Vendor → Nat
  | amd => 4098
  | analogDevices => 4564
  | cirrusLogic => 4115
  | conexant => 5361
  | creative => 4354
  | idt => 4381
  | intel => 32902
  | nvidia => 4318
  | realtek => 4332
  | via => 4358

/-- The name of the constant of a vendor. -/
def constantName : Vendor → String
  | analogDevices => "ANALOG_DEVICES"
  | cirrusLogic => "CIRRUS_LOGIC"
  | vendor => vendor.label.map Char.toUpper

/-- The number of a vendor in hexadecimal. -/
def hexId (v : Vendor) : String := "0x" ++ String.ofList (Text.hexDigits v.id)

/-- The vendor that a label stands for. -/
def ofLabel? (s : String) : Option Vendor := all.find? fun vendor => vendor.label == s

/-- What is said of a label that stands for no vendor. -/
def unknownMessage (s : String) : String := "unknown vendor " ++ Text.quoted s

end Vendor

/-- The models of computers that a controller may be in. -/
inductive ComputerModel where
  | desktop
  | laptop
  | any
deriving DecidableEq, Repr

namespace ComputerModel

/-- Every computer model. -/
def all : List ComputerModel := [desktop, laptop, any]

/-- The label of a computer model in a table. -/
def label : ComputerModel → String
  | desktop => "Desktop"
  | laptop => "Laptop"
  | any => "Any"

/-- The constant that stands for a computer model in the source. -/
def symbol : ComputerModel → String
  | desktop => "WIOKit::ComputerModel::ComputerDesktop"
  | laptop => "WIOKit::ComputerModel::ComputerLaptop"
  | any => "WIOKit::ComputerModel::ComputerAny"

/-- The name of the constant of a computer model. -/
def constantName (m : ComputerModel) : String := m.label.map Char.toUpper

/-- The computer model that a label stands for. -/
def ofLabel? (s : String) : Option ComputerModel := all.find? fun model => model.label == s

/-- What is said of a label that stands for no computer model. -/
def unknownMessage (s : String) : String := "unknown computer model " ++ Text.quoted s

end ComputerModel

end CodecTables.Resource
