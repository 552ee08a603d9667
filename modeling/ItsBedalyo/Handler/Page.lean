import ItsBedalyo.Database.AccountDAO
import ItsBedalyo.Database.StoreReaders
import ItsBedalyo.Protocol

/-!
# What the handlers of pages call

A page is what a client asks for or changes with one request that is answered from the tables. Its
handler parses the body, calls the database, itself or through a DAO class, and sends packets to the
session that has asked. Exceptions of the database and of the JSON library are `std::exception`s.

`dump` throws for a text that is not UTF-8, and `sendPacket` catches that, so that such a packet is
not sent: `none` stands for its body. Texts of the database and of a body that parses are UTF-8. A
number or a flag that is sent without having been set is read from memory that holds anything.
-/

namespace ItsBedalyo

variable {D α : Type}

/-- The JSON library, with the `what()` of its exceptions. That of a body which does not parse
quotes the body, whose bytes need not be UTF-8. -/
structure JsonParser (D : Type) extends JsonText D where
  parseError : String → String
  quotesUtf8 : String → Bool
  conversionError : JsonError → String

namespace JsonParser

variable (text : JsonParser D)

/-- `json::parse` of a body. -/
def read (jsonBody : String) : Except String (Json D) :=
  match text.parse jsonBody with
  | some j => .ok j
  | none => .error (text.parseError jsonBody)

/-- A conversion, with the `what()` of its exception. -/
def convert (x : Except JsonError α) : Except String α := x.mapError text.conversionError

/-- `json::parse(jsonBody)` and a conversion. -/
def readAs (decode : Json D → Except JsonError α) (jsonBody : String) : Except String α := do
  let j ← text.read jsonBody
  text.convert (decode j)

end JsonParser

/-- The types of members that hold anything until they are set. -/
inductive Scalar
  | int
  | bool
  | double
  deriving DecidableEq

/-- What they hold. -/
abbrev Scalar.Value (D : Type) : Scalar → Type
  | int => Int32
  | bool => Bool
  | double => D

/-- What the handlers call. -/
inductive PageOp (D : Type)
  | db (o : DbOp D)
  /-- a call of a DAO function that writes accounts or addresses -/
  | account (o : DaoOp AccountStatement AccountQuery Empty)
  | getUserId
  | authenticate (userId : String) (role : Int32)
  | registerUser (userId : String) (role : Int32)
  | getCurrentDate
  | uninitialised (scalar : Scalar)
  | sendPacket (cmdId : CmdID) (body : Option (Json D))

/-- What a call returns. -/
abbrev PageOp.Res : PageOp D → Type
  | db o => o.Res
  | account o => o.Res AccountQuery.Answer
  | getUserId | getCurrentDate => String
  | uninitialised scalar => scalar.Value D
  | _ => Unit

/-- Handler code. -/
abbrev Page (D : Type) := Prog (@PageOp.Res D) Exn

namespace Page

/-- Code that only calls the database; nothing but `sql::SQLException` comes from there. -/
def db : DbProg D α → Page D α
  | .ret a => .ret a
  | .fail e => .fail (.sql e.what)
  | .call o k => .call (.db o) fun
    | .ok a => db (k (.ok a))
    | .error (.sql what) => db (k (.error ⟨what⟩))
    | .error (.std what) => .fail (.std what)

/-- A function of the account DAO classes. -/
def account (p : AccountDao Empty α) : Page D α := Prog.embed PageOp.account p

/-- `session->getUserId()`. -/
def getUserId : Page D String := Prog.op PageOp.getUserId

/-- `session->authenticate(…)`. -/
def authenticate (userId : String) (role : Int32) : Page D Unit :=
  Prog.op (PageOp.authenticate userId role)

/-- `SessionManager::getInstance().registerUser(…)`. -/
def registerUser (userId : String) (role : Int32) : Page D Unit :=
  Prog.op (PageOp.registerUser userId role)

/-- `TimeUtil::getCurrentDate()`. -/
def getCurrentDate : Page D String := Prog.op PageOp.getCurrentDate

/-- What an `int` holds that nothing was assigned to. -/
def uninitialised : Page D Int32 := Prog.op (PageOp.uninitialised .int)

/-- What a `bool` holds that nothing was assigned to. -/
def uninitialisedBool : Page D Bool := Prog.op (PageOp.uninitialised .bool)

/-- What a `double` holds that nothing was assigned to. -/
def uninitialisedDouble : Page D D := Prog.op (PageOp.uninitialised .double)

/-- `session->sendPacket`. -/
def sendPacket (cmdId : CmdID) (body : Option (Json D)) : Page D Unit :=
  Prog.op (PageOp.sendPacket cmdId body)

/-- `session->sendPacket` of a body whose texts are UTF-8. -/
abbrev reply (cmdId : CmdID) (body : Json D) : Page D Unit := sendPacket cmdId (some body)

/-- A value, or what was thrown in its place. -/
def ofExcept (x : Except String α) : Page D α := Prog.ofExcept (x.mapError .std)

/-- `json::parse(jsonBody)`. -/
def parse (text : JsonParser D) (jsonBody : String) : Page D (Json D) :=
  ofExcept (text.read jsonBody)

/-- `req.at(key).get_to(…)`. -/
def get [JsonCodec D α] (text : JsonParser D) (req : Json D) (key : String) : Page D α :=
  ofExcept (text.convert (req.get key))

/-- `req.value(key, otherwise)`. -/
def value [JsonCodec D α] (text : JsonParser D) (req : Json D) (key : String) (otherwise : α) :
    Page D α :=
  ofExcept (text.convert (req.value key otherwise))

/-- A field of a DTO with defaults. -/
def getOr [JsonCodec D α] (text : JsonParser D) (req : Json D) (key : String) (otherwise : α) :
    Page D α :=
  ofExcept (text.convert (Dto.fieldWithDefault req key otherwise))

end Page

end ItsBedalyo
