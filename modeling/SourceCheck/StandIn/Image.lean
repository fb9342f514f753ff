import SourceCheck.Host.Basic
import SourceCheck.Json.Reader

/-! # Descriptions of hosts

    A host is described by the files below a base directory, a working directory
    below it and environment variables.  The files are made one after the other
    in a plain system that has its usual directories, devices and programs.

    A file is described by its text, or by a mapping:

    - `text`, or `hex` for octets in hexadecimal, with `mode` for its permission
      bits in octal,
    - `dir` for a directory, `symlink` for a link to the text given,
    - `delete` to take away what is there.
-/

namespace SourceCheck

open SourceCheck.Text

namespace Image

/-! ## The plain system -/

def programs : List String := [
  "[", "arch", "awk", "base32", "base64", "basename", "cat", "chgrp", "chmod", "chown", "cksum",
  "cmp", "comm", "cp", "cut", "dash", "date", "dd", "diff", "dirname", "echo", "egrep", "env",
  "expand", "expr", "factor", "false", "fgrep", "find", "fmt", "fold", "grep", "groups", "head",
  "id", "install", "join", "link", "ln", "logname", "ls", "mawk", "md5sum", "mkdir", "mktemp",
  "mv", "nice", "nl", "nohup", "numfmt", "od", "paste", "printenv", "printf", "pwd", "readlink",
  "realpath", "rev", "rm", "rmdir", "sed", "seq", "setsid", "sh", "sha1sum", "sha224sum",
  "sha256sum", "sha384sum", "sha512sum", "sleep", "sort", "split", "stat", "stdbuf", "sum",
  "sync", "tac", "tail", "tee", "test", "timeout", "touch", "tr", "true", "truncate", "tsort",
  "tty", "uname", "unexpand", "uniq", "unlink", "users", "wc", "which", "whoami", "xargs", "yes"]

def directories : List Place := [
  ["usr"], ["usr", "bin"], ["usr", "local"], ["usr", "local", "bin"], ["usr", "lib"],
  ["var"], ["dev"], ["etc"], ["home"], ["root"], ["opt"]]

/-- Its directories in which everybody may keep files. -/
def sharedDirectories : List Place := [["tmp"], ["var", "tmp"]]

def plainSystem : FileSystem where
  entries := directories.map (·, .directory FileSystem.newDirectoryMode)
    ++ sharedDirectories.map (·, .directory 0o1777)
    ++ programs.map (fun name => (["usr", "bin", name], .program name))
    ++ [(["bin"], .link "usr/bin"), (["dev", "null"], .device .null),
      (["dev", "zero"], .device .zero)]

/-! ## Making files -/

def makeDirectories (fs : FileSystem) (p : Path) : FileSystem :=
  (List.range (p.parts.length + 1)).foldl (fun fs n =>
    match fs.find [] true (placePath (p.parts.take n)).text with
    | .ok ⟨place, none⟩ => fs.put place (.directory FileSystem.newDirectoryMode)
    | _ => fs) fs

def hexOctets : List Char → List UInt8
  | a :: b :: rest =>
    (((Json.hexValue? a).getD 0 * 16 + (Json.hexValue? b).getD 0).toUInt8) :: hexOctets rest
  | _ => []

def octal (s : String) : Nat :=
  s.toList.foldl (fun n c => n * 8 + (digitValue? c).getD 0) 0

def modeOf (description : Value) : Nat :=
  match description.get? "mode" with
  | some (.text s) => octal s
  | _ => 0o644

def placeOf (fs : FileSystem) (follow : Bool) (p : Path) : Place :=
  match fs.find [] follow p.text with
  | .ok found => found.place
  | .error _ => p.parts

def addFile (base : Path) (fs : FileSystem) (name : String) (description : Value) : FileSystem :=
  let p := base.join (Path.ofText name)
  match description with
  | .text s =>
    let fs := makeDirectories fs p.parent
    fs.put (placeOf fs true p) (.file (Utf8.encode s) 0o644)
  | .map _ =>
    if ((description.get? "delete").getD .null).isTruthy then
      fs.remove (placeOf fs false p)
    else
      let fs := makeDirectories fs p.parent
      -- a link goes before a directory, which goes before any content
      match description.get? "symlink", description.get? "dir", description.get? "hex",
          description.get? "text" with
      | some (.text target), _, _, _ => fs.put (placeOf fs false p) (.link target)
      | _, some _, _, _ => makeDirectories fs p
      | _, _, some (.text digits), _ =>
        fs.put (placeOf fs true p) (.file (hexOctets digits.toList) (modeOf description))
      | _, _, _, some (.text s) =>
        fs.put (placeOf fs true p) (.file (Utf8.encode s) (modeOf description))
      | _, _, _, _ => fs
  | _ => fs

def addFiles (base : Path) (fs : FileSystem) (description : Value) : FileSystem :=
  match description with
  | .map members => members.foldl (fun fs (name, d) => addFile base fs name d) fs
  | _ => fs

/-! ## Environment -/

def plainVariables : Variables := [("PATH", "/usr/bin:/bin"), ("COLUMNS", "80")]

def addVariables (vs : Variables) (description : Value) : Variables :=
  match description with
  | .map members => members.foldl (fun vs (name, v) =>
      match v with
      | .text s => Variables.set name s vs
      | _ => vs) vs
  | _ => vs

/-- The host in which a request is answered: files made below the base directory,
    the working directory entered, the variables set. -/
def addRequest (base : Path) (h : Host) (request : Value) : Host :=
  let files := addFiles base h.files ((request.get? "files").getD .null)
  let cwd := match request.get? "in" with
    | some (.text s) => placeOf files true (base.join (Path.ofText s))
    | _ => base.parts
  ⟨files, cwd, addVariables plainVariables ((request.get? "env").getD .null)⟩

def plainHost (base : Path) : Host :=
  ⟨makeDirectories plainSystem base, base.parts, plainVariables⟩

end Image

end SourceCheck
