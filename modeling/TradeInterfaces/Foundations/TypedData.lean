import Mathlib.Data.List.Sort
import Mathlib.Data.Set.Function
import TradeInterfaces.Foundations.BigEndian

/-! Typed structured data and the digest that is signed for it: a struct type is described
by a text, a value is encoded field by field into 32-byte words, and a digest binds a struct
to a domain. The hash function is a parameter. -/
namespace TradeInterfaces.Foundations.TypedData
open BigEndian

def utf8 (text : String) : List UInt8 := text.toByteArray.data.toList

theorem utf8_injective : Function.Injective utf8 := by
  intro a b h
  apply String.toByteArray_inj.mp
  apply ByteArray.ext
  exact Array.toList_inj.mp h

inductive Atom where
  | address
  | uint (bits : Nat)
  | bytes32
  | string

def Atom.name : Atom → String
  | .address => "address"
  | .uint bits => "uint" ++ toString bits
  | .bytes32 => "bytes32"
  | .string => "string"

def Atom.Value : Atom → Type
  | .address => Bytes 20
  | .uint bits => BitVec bits
  | .bytes32 => Bytes 32
  | .string => String

/-- Numbers and addresses are filled up on the left, and a text is hashed. -/
def Atom.encode (hash : List UInt8 → Bytes 32) : (a : Atom) → a.Value → Bytes 32
  | .address, v => toBytes 32 (@ofBytes 20 v)
  | .uint bits, v => toBytes 32 (@BitVec.toNat bits v)
  | .bytes32, v => v
  | .string, v => hash (utf8 v)

mutual
inductive Ty where
  | atom (a : Atom)
  | struct (name : String) (fields : Fields)
  | array (elem : Ty)
inductive Fields where
  | nil
  | cons (name : String) (type : Ty) (rest : Fields)
end

mutual
def Ty.Value : Ty → Type
  | .atom a => a.Value
  | .struct _ fields => fields.Value
  | .array elem => List elem.Value
def Fields.Value : Fields → Type
  | .nil => Unit
  | .cons _ type rest => type.Value × rest.Value
end

def Ty.name : Ty → String
  | .atom a => a.name
  | .struct name _ => name
  | .array elem => elem.name ++ "[]"

def Fields.texts : Fields → List String
  | .nil => []
  | .cons name type rest => (type.name ++ " " ++ name) :: rest.texts

/-- One struct in the text of a type: its name and its fields in their order. -/
def declaration (name : String) (fields : Fields) : String :=
  name ++ "(" ++ ",".intercalate fields.texts ++ ")"

mutual
def Ty.structs : Ty → List (String × String)
  | .atom _ => []
  | .struct name fields => (name, declaration name fields) :: fields.structs
  | .array elem => elem.structs
def Fields.structs : Fields → List (String × String)
  | .nil => []
  | .cons _ type rest => type.structs ++ rest.structs
end

/-- The text of a struct type: the struct first, then the ones it refers to by name. -/
def encodeType (name : String) (fields : Fields) : String :=
  let referenced := fields.structs.dedup.insertionSort fun a b => a.1 ≤ b.1
  declaration name fields ++ String.join (referenced.map Prod.snd)

section
variable (hash : List UInt8 → Bytes 32)

def typeHash (name : String) (fields : Fields) : Bytes 32 := hash (utf8 (encodeType name fields))

mutual
def Ty.encode : (type : Ty) → type.Value → Bytes 32
  | .atom a, v => a.encode hash v
  | .struct name fields, v => hash ((typeHash hash name fields).toList ++ fields.encode v)
  | .array elem, vs => hash (vs.flatMap fun v => (elem.encode v).toList)
def Fields.encode : (fields : Fields) → fields.Value → List UInt8
  | .nil, _ => []
  | .cons _ type rest, v => (type.encode v.1).toList ++ rest.encode v.2
end

def hashStruct (name : String) (fields : Fields) (v : fields.Value) : Bytes 32 :=
  (Ty.struct name fields).encode hash v

end

/-- A field that may be left out, in front of the fields after it. -/
def consField (name : String) (type : Ty) (value : Option type.Value) (rest : Σ fields : Fields, fields.Value) :
    Σ fields : Fields, fields.Value :=
  match value with
  | some v => ⟨.cons name type rest.1, (v, rest.2)⟩
  | none => rest

/-- A domain is a struct of the fields that are given, in this order. -/
structure Domain where
  name : Option String
  version : Option String
  chainId : Option (BitVec 256)
  verifyingContract : Option (Bytes 20)
  salt : Option (Bytes 32)

def Domain.empty : Domain := ⟨none, none, none, none, none⟩

def Domain.data (d : Domain) : Σ fields : Fields, fields.Value :=
  consField "name" (.atom .string) d.name <|
  consField "version" (.atom .string) d.version <|
  consField "chainId" (.atom (.uint 256)) d.chainId <|
  consField "verifyingContract" (.atom .address) d.verifyingContract <|
  consField "salt" (.atom .bytes32) d.salt ⟨.nil, ()⟩

def Domain.text (d : Domain) : String := encodeType "EIP712Domain" d.data.1

section
variable (hash : List UInt8 → Bytes 32)

def domainMessage (d : Domain) : List UInt8 :=
  (typeHash hash "EIP712Domain" d.data.1).toList ++ d.data.1.encode hash d.data.2

def domainSeparator (d : Domain) : Bytes 32 := hashStruct hash "EIP712Domain" d.data.1 d.data.2

/-- What is hashed last: two fixed bytes, the domain and the struct. -/
def signedMessage (separator structHash : Bytes 32) : List UInt8 :=
  [0x19, 0x01] ++ separator.toList ++ structHash.toList

def digest (d : Domain) (structHash : Bytes 32) : Bytes 32 :=
  hash (signedMessage (domainSeparator hash d) structHash)

/-- All that is hashed between the domain's text and the digest. -/
def messages (d : Domain) (structHash : Bytes 32) : List (List UInt8) :=
  [utf8 d.text, domainMessage hash d, signedMessage (domainSeparator hash d) structHash]

end

section
variable {hash : List UInt8 → Bytes 32}

theorem map_messages (d : Domain) (structHash : Bytes 32) : (messages hash d structHash).map hash =
    [hash (utf8 d.text), domainSeparator hash d, digest hash d structHash] := rfl

theorem signedMessage_inj {separator separator' structHash structHash' : Bytes 32}
    (h : signedMessage separator structHash = signedMessage separator' structHash') :
    separator = separator' ∧ structHash = structHash' := by
  have hsuffix : separator.toList ++ structHash.toList = separator'.toList ++ structHash'.toList := by
    have hbytes : ([0x19, 0x01] : List UInt8) ++ (separator.toList ++ structHash.toList) =
        [0x19, 0x01] ++ (separator'.toList ++ structHash'.toList) := by
      simpa only [signedMessage, List.append_assoc] using h
    exact List.append_cancel_left hbytes
  have hlen : separator.toList.length = separator'.toList.length := by simp
  obtain ⟨hs, ht⟩ := List.append_inj hsuffix hlen
  exact ⟨List.Vector.toList_injective hs, List.Vector.toList_injective ht⟩

theorem typeHash_of_domainMessage {d d' : Domain} (h : domainMessage hash d = domainMessage hash d') :
    hash (utf8 d.text) = hash (utf8 d'.text) := by
  have hlen : (typeHash hash "EIP712Domain" d.data.1).toList.length =
      (typeHash hash "EIP712Domain" d'.data.1).toList.length := by simp
  exact List.Vector.toList_injective (List.append_inj h hlen).1

/-- Without collisions on the way, a digest determines the type of its domain and the struct hash. -/
theorem digest_inj {d d' : Domain} {structHash structHash' : Bytes 32}
    (hfree : Set.InjOn hash {m | m ∈ messages hash d structHash ++ messages hash d' structHash'})
    (h : digest hash d structHash = digest hash d' structHash') : d.text = d'.text ∧ structHash = structHash' := by
  have hsigned := hfree (by simp [messages]) (by simp [messages]) h
  obtain ⟨hseparator, hstruct⟩ := signedMessage_inj hsigned
  refine ⟨?_, hstruct⟩
  have hdomain : domainMessage hash d = domainMessage hash d' :=
    hfree (by simp [messages]) (by simp [messages]) hseparator
  have htext : utf8 d.text = utf8 d'.text :=
    hfree (by simp [messages]) (by simp [messages]) (typeHash_of_domainMessage hdomain)
  exact utf8_injective htext

end

/-- A domain with the given fields; the text depends on nothing else. -/
private def Domain.sample (name version chainId verifyingContract salt : Bool) : Domain where
  name := if name then some "" else none
  version := if version then some "" else none
  chainId := if chainId then some 0 else none
  verifyingContract := if verifyingContract then some (List.Vector.replicate 20 0) else none
  salt := if salt then some (List.Vector.replicate 32 0) else none

private theorem Domain.text_sample (d : Domain) : d.text = (Domain.sample d.name.isSome d.version.isSome
    d.chainId.isSome d.verifyingContract.isSome d.salt.isSome).text := by
  obtain ⟨name, version, chainId, verifyingContract, salt⟩ := d
  cases name <;> cases version <;> cases chainId <;> cases verifyingContract <;> cases salt <;> rfl

private theorem Domain.sample_text_eq_empty : ∀ name version chainId verifyingContract salt : Bool,
    (Domain.sample name version chainId verifyingContract salt).text = Domain.empty.text →
      name = false ∧ version = false ∧ chainId = false ∧ verifyingContract = false ∧ salt = false := by
  decide +kernel

/-- The empty domain shares its text with no other. -/
theorem Domain.eq_empty_of_text_eq {d : Domain} (h : d.text = Domain.empty.text) : d = Domain.empty := by
  rw [Domain.text_sample] at h
  obtain ⟨hn, hv, hc, ha, hs⟩ := Domain.sample_text_eq_empty _ _ _ _ _ h
  obtain ⟨name, version, chainId, verifyingContract, salt⟩ := d
  simp only [Option.isSome_eq_false_iff, Option.isNone_iff_eq_none] at hn hv hc ha hs
  rw [hn, hv, hc, ha, hs]
  rfl

end TradeInterfaces.Foundations.TypedData
