import ComponentViews.FileSystem
import ComponentViews.Shell.Octets

/-! What stands in the file tree of every system: some directories, and programs in two of
them. A program is told by its content, wherever it has been copied to. -/

namespace ComponentViews.Shell.System

/-- Directories that every system has. -/
def directories : List String :=
  ["/bin", "/boot", "/dev", "/dev/fd", "/dev/pts", "/dev/shm", "/etc", "/home", "/lib", "/media", "/mnt", "/opt",
    "/proc", "/proc/self", "/proc/self/fd", "/root", "/run", "/sbin", "/srv", "/sys", "/tmp", "/usr", "/usr/bin",
    "/usr/lib", "/usr/local", "/usr/local/bin", "/usr/local/sbin", "/usr/sbin", "/usr/share", "/var", "/var/log",
    "/var/tmp"]

/-- Names of programs that every system has. -/
def programs : List String :=
  ["[", "awk", "b2sum", "base32", "base64", "basename", "bash", "cat", "chmod", "chown", "cksum", "cmp", "comm", "cp",
    "cut", "dash", "date", "dd", "diff", "dirname", "echo", "env", "expand", "expr", "factor", "false",
    "find", "fold", "fmt", "getconf", "getopt", "grep", "groups", "head", "hostname", "id", "install",
    "join", "kill", "link", "ln", "logname", "ls", "mawk", "md5sum", "mkdir", "mkfifo", "mktemp", "mv", "nawk", "nice",
    "nl", "nohup", "nproc", "numfmt", "od", "paste", "pathchk", "pr", "printenv", "printf", "pwd", "readlink",
    "realpath", "rev", "rm", "rmdir", "sed", "seq", "setsid", "sh", "sha1sum", "sha224sum", "sha256sum",
    "sha384sum", "sha512sum", "shuf", "sleep", "sort", "split", "stat", "stdbuf", "sum", "sync", "tac", "tail",
    "tee", "test", "timeout", "touch", "tr", "true", "truncate", "tsort", "tty", "uname", "unexpand", "uniq",
    "unlink", "wc", "which", "whoami", "xargs", "yes"]

/-- What the content of a program starts with, its name behind. -/
def mark : List UInt8 := [127, 69, 76, 70, 255]

def programContent (name : String) : Content := .binary (mark ++ name.toUTF8.toList)

/-- The name of the program that a content is. -/
def programName? (content : Content) : Option String :=
  match content with
  | .text _ => none
  | .binary bytes =>
    if mark.isPrefixOf bytes then String.fromUTF8? (ByteArray.mk (bytes.drop mark.length).toArray) else none

/-- Programs that are scripts. -/
def scripts : List (String × String) :=
  [("egrep", "#!/bin/sh\ncmd=$\x7b0##*/\x7d\nexec grep -E \"$@\"\n"),
    ("fgrep", "#!/bin/sh\ncmd=$\x7b0##*/\x7d\nexec grep -F \"$@\"\n"),
    ("rgrep", "#!/bin/sh\n\nexec grep -r \"$@\"\n")]

/-- The content of a program by its name. -/
def contentOf? (name : String) : Option Content :=
  if programs.contains name then some (programContent name) else (scripts.lookup name).map .text

/-- The content of the program at a location. -/
def programAt? : Location → Option Content
  | ["bin", name] => contentOf? name
  | ["usr", "bin", name] => contentOf? name
  | _ => none

/-- Files with the directories that every system has. -/
def furnished (files : FileSystem) : FileSystem :=
  directories.foldl (fun files directory => (files.makeDirectories { text := directory }).2) files

end ComponentViews.Shell.System
