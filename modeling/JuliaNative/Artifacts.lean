import JuliaNative.Link.Rules

set_option autoImplicit false

/-! # Artifacts

The files that a build produces, named after the output and placed in the build directory, and the
C sources that come with the builder: the driver program of executables and the source of the
functions with which a host starts and stops the runtime. -/

namespace JuliaNative

/-- The names of the produced files, seen from the build directory. -/
structure Artifacts where
  objectFile : String
  sharedLibrary : String
  executable : String
  initSource : String
deriving DecidableEq, Repr

/-- The name of the generated source of the start and stop functions. -/
def initSourceName : String := "lib_init.c"

/-- The names of the artifacts of an output. -/
def Artifacts.named (output : String) (runtime : Runtime) (rules : LinkRules) :
    Except VersionFault Artifacts :=
  runtime.objectExtension.map fun extension => {
    objectFile := output ++ extension
    sharedLibrary := output ++ "." ++ runtime.dlext
    executable := output ++ rules.executableExtension
    initSource := initSourceName }

/-- The endings of the names of files that are only needed while building. -/
def temporaryEndings : List String := [".o", ".a"]

/-- Whether an entry of the build directory is only needed while building: object files, archives
    and the caches of compiled modules. -/
def isTemporary (name : String) : Bool :=
  temporaryEndings.any (fun ending => ending.toList.isSuffixOf name.toList)
    || Runtime.cachePrefix.toList.isPrefixOf name.toList

/-- The name of the script that a trace of precompile statements is written to. -/
def traceName : String := "precompiled.jl"

/-- The name of the generated main script. -/
def mainScriptName : String := "julia_main.jl"

/-! ## Sources -/

/-- The source of the functions that start and stop the runtime inside a host program. -/
def initSource : String :=
  "// Julia headers (for initialization and gc commands)\n"
    ++ "#include \"uv.h\"\n"
    ++ "#include \"julia.h\"\n"
    ++ "\n"
    ++ "#ifdef JULIA_DEFINE_FAST_TLS\n"
    ++ "JULIA_DEFINE_FAST_TLS()\n"
    ++ "#endif\n"
    ++ "\n"
    ++ "int init_jl_runtime()\n"
    ++ "\x7b\n"
    ++ "    libsupport_init();\n"
    ++ "    // JULIAC_PROGRAM_LIBNAME is defined on the compiler command line\n"
    ++ "    jl_options.image_file = JULIAC_PROGRAM_LIBNAME;\n"
    ++ "    julia_init(JL_IMAGE_JULIA_HOME);\n"
    ++ "    return 0;\n"
    ++ "\x7d\n"
    ++ "\n"
    ++ "int exit_jl_runtime()\n"
    ++ "\x7b\n"
    ++ "    int retcode = 0;\n"
    ++ "    jl_atexit_hook(retcode);\n"
    ++ "    return retcode;\n"
    ++ "\x7d\n"

/-- The driver program of executables: it starts the runtime from the shared library and calls the
    main function of the program. -/
def driverSource : String :=
  "// Default driver program for jlbuild executables.\n"
    ++ "//\n"
    ++ "// Starts the julia runtime from the image compiled into the shared library\n"
    ++ "// named by JULIAC_PROGRAM_LIBNAME, copies the command line into Base.ARGS\n"
    ++ "// and calls `Base.@ccallable julia_main(ARGS::Vector\x7bString\x7d)::Cint`\n"
    ++ "// defined by the compiled program.\n"
    ++ "\n"
    ++ "#include <string.h>\n"
    ++ "#include <stdint.h>\n"
    ++ "\n"
    ++ "#include \"uv.h\"\n"
    ++ "#include \"julia.h\"\n"
    ++ "\n"
    ++ "#ifdef JULIA_DEFINE_FAST_TLS\n"
    ++ "JULIA_DEFINE_FAST_TLS()\n"
    ++ "#endif\n"
    ++ "\n"
    ++ "extern int julia_main(jl_array_t*);\n"
    ++ "\n"
    ++ "int main(int argc, char *argv[])\n"
    ++ "\x7b\n"
    ++ "    int retcode;\n"
    ++ "    int i;\n"
    ++ "    uv_setup_args(argc, argv);\n"
    ++ "\n"
    ++ "    libsupport_init();\n"
    ++ "    jl_options.image_file = JULIAC_PROGRAM_LIBNAME;\n"
    ++ "    julia_init(JL_IMAGE_JULIA_HOME);\n"
    ++ "\n"
    ++ "    jl_set_ARGS(argc, argv);\n"
    ++ "    jl_set_global(jl_base_module, jl_symbol(\"PROGRAM_FILE\"),\n"
    ++ "                  (jl_value_t*)jl_cstr_to_string(argv[0]));\n"
    ++ "\n"
    ++ "    jl_array_t *ARGS = (jl_array_t*)jl_get_global(jl_base_module, jl_symbol(\"ARGS\"));\n"
    ++ "    jl_array_grow_end(ARGS, argc - 1);\n"
    ++ "    for (i = 1; i < argc; i++) \x7b\n"
    ++ "        jl_value_t *s = (jl_value_t*)jl_cstr_to_string(argv[i]);\n"
    ++ "        jl_arrayset(ARGS, s, i - 1);\n"
    ++ "    \x7d\n"
    ++ "\n"
    ++ "    retcode = julia_main(ARGS);\n"
    ++ "\n"
    ++ "    jl_atexit_hook(retcode);\n"
    ++ "    return retcode;\n"
    ++ "\x7d\n"

end JuliaNative
