import Accrete.Database.Bytes

/-!
# The edition of the database

What a database tells about itself.

* `Edition.version`, `Edition.sourceName`  -- which one it is
* `Edition.options`                        -- what it was made with
* `Edition.has`                            -- whether it was made with an option
-/

namespace Accrete.Edition

def version : String := "3.40.1"

def sourceName : String :=
  "2022-12-28 14:03:47 df5c253c0b3dd24916e4ec7cf77d3db5294cc9fd45ae7b9c5e82ad8197f3alt1"

/-- What the database was made with, in order. -/
def options : List String :=
  ["ATOMIC_INTRINSICS=1", "COMPILER=gcc-12.2.0", "DEFAULT_AUTOVACUUM", "DEFAULT_CACHE_SIZE=-2000",
   "DEFAULT_FILE_FORMAT=4", "DEFAULT_JOURNAL_SIZE_LIMIT=-1", "DEFAULT_MMAP_SIZE=0",
   "DEFAULT_PAGE_SIZE=4096", "DEFAULT_PCACHE_INITSZ=20", "DEFAULT_RECURSIVE_TRIGGERS",
   "DEFAULT_SECTOR_SIZE=4096", "DEFAULT_SYNCHRONOUS=2", "DEFAULT_WAL_AUTOCHECKPOINT=1000",
   "DEFAULT_WAL_SYNCHRONOUS=2", "DEFAULT_WORKER_THREADS=0", "ENABLE_COLUMN_METADATA",
   "ENABLE_DBSTAT_VTAB", "ENABLE_FTS3", "ENABLE_FTS3_PARENTHESIS", "ENABLE_FTS3_TOKENIZER",
   "ENABLE_FTS4", "ENABLE_FTS5", "ENABLE_LOAD_EXTENSION", "ENABLE_MATH_FUNCTIONS",
   "ENABLE_PREUPDATE_HOOK", "ENABLE_RTREE", "ENABLE_SESSION", "ENABLE_STMTVTAB",
   "ENABLE_UNLOCK_NOTIFY", "ENABLE_UPDATE_DELETE_LIMIT", "HAVE_ISNAN", "LIKE_DOESNT_MATCH_BLOBS",
   "MALLOC_SOFT_LIMIT=1024", "MAX_ATTACHED=10", "MAX_COLUMN=2000", "MAX_COMPOUND_SELECT=500",
   "MAX_DEFAULT_PAGE_SIZE=32768", "MAX_EXPR_DEPTH=1000", "MAX_FUNCTION_ARG=127",
   "MAX_LENGTH=1000000000", "MAX_LIKE_PATTERN_LENGTH=50000", "MAX_MMAP_SIZE=0x7fff0000",
   "MAX_PAGE_COUNT=1073741823", "MAX_PAGE_SIZE=65536", "MAX_SCHEMA_RETRY=25",
   "MAX_SQL_LENGTH=1000000000", "MAX_TRIGGER_DEPTH=1000", "MAX_VARIABLE_NUMBER=250000",
   "MAX_VDBE_OP=250000000", "MAX_WORKER_THREADS=8", "MUTEX_PTHREADS", "SECURE_DELETE", "SOUNDEX",
   "SYSTEM_MALLOC", "TEMP_STORE=1", "THREADSAFE=1", "USE_URI"]

/-- A text without the word that may stand before options. -/
def withoutLead (bs : Bytes) : Bytes :=
  if (bs.take 7).map Bytes.upper == Bytes.ofString "SQLITE_" then bs.drop 7 else bs

def isWordByte (b : UInt8) : Bool :=
  Bytes.isDigit b || Bytes.isAlpha b || b == 95 || b == 36 || 0x80 ≤ b

/-- Whether the database was made with an option, which may be named without its value. -/
def has (name : Bytes) : Bool :=
  let wanted := (withoutLead name).map Bytes.lower
  options.any fun o =>
    let bs := Bytes.ofString o
    wanted == (bs.take wanted.length).map Bytes.lower &&
      !(bs.drop wanted.length).head?.any isWordByte

end Accrete.Edition
