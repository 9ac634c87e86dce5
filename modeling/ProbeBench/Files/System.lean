import ProbeBench.Files.Tree
import ProbeBench.Text.Utf8

/-!
# Files of the system

What every system has beside the files that somebody made: the directories below the root, the
devices, and the programs that can be run everywhere.

* `entry?_null`: the device that holds nothing is there.
-/

namespace ProbeBench

namespace FileTree

/-- The programs of the system. -/
def programNames : List String :=
  ["sh", "dash", "cat", "sleep", "echo", "printf", "true", "false", "test", "[", "pwd", "env"]

/-- The directories that hold them. -/
def programFolders : List (List String) := [["usr", "bin"], ["bin"]]

/-- The names of the directories of the system. -/
def systemFolders : List String :=
  ["boot", "dev/pts", "dev/shm", "etc", "home", "lib", "lib64", "media", "mnt", "opt", "proc",
    "root", "run", "sbin", "srv", "sys", "tmp", "usr/lib", "usr/local/bin", "usr/sbin",
    "usr/share", "var/lib", "var/log", "var/tmp"]

/-- The devices of the system. -/
def systemDevices : List (String × Device) :=
  [("dev/null", .null), ("dev/zero", .endless), ("dev/random", .endless),
    ("dev/urandom", .endless), ("dev/full", .full), ("dev/tty", .terminal),
    ("dev/stdin", .stream 0), ("dev/stdout", .stream 1), ("dev/stderr", .stream 2)] ++
  ["dev/fd/", "proc/self/fd/"].flatMap fun folder =>
    (List.range 10).map fun n => (folder ++ toString n, .stream n)

/-- The users that every system has: a name, a number, a home and a shell. -/
def systemUsers : List String :=
  ["root:x:0:0:root:/root:/bin/bash", "daemon:x:1:1:daemon:/usr/sbin:/usr/sbin/nologin",
    "bin:x:2:2:bin:/bin:/usr/sbin/nologin", "sys:x:3:3:sys:/dev:/usr/sbin/nologin",
    "sync:x:4:65534:sync:/bin:/bin/sync", "games:x:5:60:games:/usr/games:/usr/sbin/nologin",
    "man:x:6:12:man:/var/cache/man:/usr/sbin/nologin",
    "lp:x:7:7:lp:/var/spool/lpd:/usr/sbin/nologin",
    "mail:x:8:8:mail:/var/mail:/usr/sbin/nologin",
    "news:x:9:9:news:/var/spool/news:/usr/sbin/nologin",
    "uucp:x:10:10:uucp:/var/spool/uucp:/usr/sbin/nologin",
    "proxy:x:13:13:proxy:/bin:/usr/sbin/nologin",
    "www-data:x:33:33:www-data:/var/www:/usr/sbin/nologin",
    "backup:x:34:34:backup:/var/backups:/usr/sbin/nologin",
    "list:x:38:38:Mailing List Manager:/var/list:/usr/sbin/nologin",
    "irc:x:39:39:ircd:/run/ircd:/usr/sbin/nologin",
    "_apt:x:42:65534::/nonexistent:/usr/sbin/nologin",
    "nobody:x:65534:65534:nobody:/nonexistent:/usr/sbin/nologin"]

/-- How the octets of a program begin. -/
def programStart : List UInt8 :=
  [127, 69, 76, 70, 2, 1, 1, 0, 0, 0, 0, 0, 0, 0, 0, 0, 3, 0, 62, 0, 1, 0, 0, 0, 192]

/-- The files of the system. -/
def system : FileTree :=
  let names (text : String) : List String := (Path.ofText text).names
  let users := "\n".intercalate systemUsers ++ "\n"
  systemFolders.map (fun text => (names text, .directory)) ++
    systemDevices.map (fun d => (names d.1, .device d.2)) ++
    programFolders.flatMap
      (fun folder => programNames.map fun name => (folder ++ [name], .file programStart true 0)) ++
    [(["etc", "passwd"], .file (Text.Utf8.encode users.toList) false 0)]

theorem entry?_null : system.entry? ["dev", "null"] = some (.device .null) := by
  decide +kernel

end FileTree

end ProbeBench
