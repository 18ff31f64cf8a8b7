/-! File paths as the command line meets them: their normal form, and a lookup one component at a
time over a working directory of at most one file and the standard entries of the system. -/
namespace Lc3Lint.Cli

def pathComponents (p : String) : List String :=
  (p.splitOn "/").filter fun c => !c.isEmpty && c != "."

def normalPath (p : String) : String :=
  let slashes := (p.toList.takeWhile (· = '/')).length
  let root := if slashes = 0 then "" else if slashes = 2 then "//" else "/"
  let body := root ++ "/".intercalate (pathComponents p)
  if body.isEmpty then "." else body

def refusesPath (p : String) : Bool := p.contains '\x00'

/-- Whether a path is too long to look up: 4096 bytes or more in all, or a component of more
than 255 bytes. -/
def isTooLong (p : String) : Bool :=
  4096 ≤ p.utf8ByteSize || (p.splitOn "/").any (255 < ·.utf8ByteSize)

inductive Entry where
  | missing
  | directory
  | file (bytes : List UInt8)
  | refused
  deriving DecidableEq, Repr

/-- Where a lookup stands: at components below the working directory, or elsewhere at
components below the root. -/
inductive Place where
  | work (cs : List String)
  | system (cs : List String)
  deriving DecidableEq, Repr

namespace Place

def parent : Place → Place
  | work [] => system ["tmp"]
  | work cs => work cs.dropLast
  | system cs => system cs.dropLast

def child (p : Place) (name : String) : Place :=
  match p with
  | work cs => work (cs ++ [name])
  | system cs => system (cs ++ [name])

end Place

inductive SystemEntry where
  | directory
  | file (bytes : List UInt8)
  | link (target : Place)
  deriving DecidableEq, Repr

def systemDirectories : List (List String) :=
  [["boot"], ["dev"], ["etc"], ["home"], ["media"], ["mnt"], ["opt"], ["proc"], ["root"],
    ["run"], ["srv"], ["sys"], ["tmp"], ["usr"], ["var"],
    ["dev", "mqueue"], ["dev", "pts"], ["dev", "shm"],
    ["proc", "1"], ["proc", "sys"], ["proc", "self"], ["proc", "self", "fd"],
    ["proc", "self", "fdinfo"], ["proc", "self", "net"], ["proc", "self", "ns"],
    ["proc", "self", "task"], ["proc", "thread-self"],
    ["run", "lock"],
    ["sys", "block"], ["sys", "bus"], ["sys", "class"], ["sys", "dev"], ["sys", "devices"],
    ["sys", "firmware"], ["sys", "fs"], ["sys", "kernel"], ["sys", "module"],
    ["usr", "bin"], ["usr", "games"], ["usr", "include"], ["usr", "lib"], ["usr", "lib64"],
    ["usr", "libexec"], ["usr", "local"], ["usr", "sbin"], ["usr", "share"], ["usr", "src"],
    ["usr", "local", "bin"], ["usr", "local", "etc"], ["usr", "local", "games"],
    ["usr", "local", "include"], ["usr", "local", "lib"], ["usr", "local", "sbin"],
    ["usr", "local", "share"], ["usr", "local", "src"], ["usr", "share", "man"],
    ["var", "backups"], ["var", "cache"], ["var", "lib"], ["var", "local"], ["var", "log"],
    ["var", "mail"], ["var", "opt"], ["var", "spool"], ["var", "tmp"]]

def systemLinks : List (List String × Place) :=
  [(["bin"], .system ["usr", "bin"]), (["lib"], .system ["usr", "lib"]),
    (["lib64"], .system ["usr", "lib64"]), (["sbin"], .system ["usr", "sbin"]),
    (["dev", "fd"], .system ["proc", "self", "fd"]),
    (["proc", "self", "cwd"], .work []), (["proc", "self", "root"], .system []),
    (["proc", "thread-self", "cwd"], .work []), (["proc", "thread-self", "root"], .system []),
    (["var", "lock"], .system ["run", "lock"]), (["var", "run"], .system ["run"])]

def systemFiles : List (List String × List UInt8) := [(["dev", "null"], [])]

def systemEntry? (cs : List String) : Option SystemEntry :=
  if cs = [] ∨ systemDirectories.contains cs then some .directory
  else match systemLinks.lookup cs with
    | some target => some (.link target)
    | none => (systemFiles.lookup cs).map .file

structure Workspace where
  file : Option (String × List UInt8) := none
  deriving DecidableEq, Repr

namespace Workspace

def entryAt (w : Workspace) : Place → Entry
  | .work cs =>
    match w.file with
    | some (path, bytes) =>
      let target := pathComponents path
      if cs = target then .file bytes
      else if cs.length < target.length && cs = target.take cs.length then .directory
      else if cs.isEmpty then .directory
      else .missing
    | none => if cs.isEmpty then .directory else .missing
  | .system cs =>
    match systemEntry? cs with
    | some .directory => .directory
    | some (.file bytes) => .file bytes
    | _ => .missing

def follow : Place → Place
  | .system cs =>
    match systemEntry? cs with
    | some (.link target) => target
    | _ => .system cs
  | p => p

def walk (w : Workspace) : Place → List String → Entry
  | here, [] => w.entryAt here
  | here, c :: rest =>
    match w.entryAt here with
    | .directory =>
      if c = "." then w.walk here rest
      else if c = ".." then w.walk here.parent rest
      else w.walk (follow (here.child c)) rest
    | _ => .missing

/-- What a path names, from the root when it starts with a slash and from the working directory
otherwise. -/
def lookup (w : Workspace) (p : String) : Entry :=
  if refusesPath p then .refused
  else if p.isEmpty || isTooLong p then .missing
  else
    let start := if p.startsWith "/" then Place.system [] else Place.work []
    match w.walk start ((p.splitOn "/").filter (!·.isEmpty)) with
    | .file bytes => if p.endsWith "/" then .missing else .file bytes
    | e => e

end Workspace

end Lc3Lint.Cli
