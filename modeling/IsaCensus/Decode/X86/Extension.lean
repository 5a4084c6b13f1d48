/-! The extensions of the x86 instruction set that an instruction can belong to. -/

namespace IsaCensus.X86

inductive Extension
  | intel8086
  | intel186
  | intel286
  | intel386
  | x64
  | adx
  | aes
  | avx
  | avx2
  | avx512bw
  | avx512f
  | avx512vl
  | bmi1
  | bmi2
  | cetIbt
  | clflushopt
  | clfsh
  | cmov
  | cmpxchg16b
  | cpuid
  | cx8
  | d3now
  | f16c
  | fma
  | fpu
  | fsgsbase
  | fxsr
  | hleOrRtm
  | lzcnt
  | mmx
  | monitor
  | movbe
  | msr
  | multiByteNop
  | pause
  | pclmulqdq
  | popcnt
  | prefetchw
  | rdrand
  | rdseed
  | rdtscp
  | rtm
  | sep
  | sha
  | sse
  | sse2
  | sse3
  | sse4a
  | sse41
  | sse42
  | ssse3
  | svm
  | syscall
  | tbm
  | tsc
  | vaes
  | vmx
  | xsave
deriving DecidableEq, Repr

def Extension.name : Extension → String
  | .intel8086 => "INTEL8086"
  | .intel186 => "INTEL186"
  | .intel286 => "INTEL286"
  | .intel386 => "INTEL386"
  | .x64 => "X64"
  | .adx => "ADX"
  | .aes => "AES"
  | .avx => "AVX"
  | .avx2 => "AVX2"
  | .avx512bw => "AVX512BW"
  | .avx512f => "AVX512F"
  | .avx512vl => "AVX512VL"
  | .bmi1 => "BMI1"
  | .bmi2 => "BMI2"
  | .cetIbt => "CET_IBT"
  | .clflushopt => "CLFLUSHOPT"
  | .clfsh => "CLFSH"
  | .cmov => "CMOV"
  | .cmpxchg16b => "CMPXCHG16B"
  | .cpuid => "CPUID"
  | .cx8 => "CX8"
  | .d3now => "D3NOW"
  | .f16c => "F16C"
  | .fma => "FMA"
  | .fpu => "FPU"
  | .fsgsbase => "FSGSBASE"
  | .fxsr => "FXSR"
  | .hleOrRtm => "HLE_or_RTM"
  | .lzcnt => "LZCNT"
  | .mmx => "MMX"
  | .monitor => "MONITOR"
  | .movbe => "MOVBE"
  | .msr => "MSR"
  | .multiByteNop => "MULTIBYTENOP"
  | .pause => "PAUSE"
  | .pclmulqdq => "PCLMULQDQ"
  | .popcnt => "POPCNT"
  | .prefetchw => "PREFETCHW"
  | .rdrand => "RDRAND"
  | .rdseed => "RDSEED"
  | .rdtscp => "RDTSCP"
  | .rtm => "RTM"
  | .sep => "SEP"
  | .sha => "SHA"
  | .sse => "SSE"
  | .sse2 => "SSE2"
  | .sse3 => "SSE3"
  | .sse4a => "SSE4A"
  | .sse41 => "SSE4_1"
  | .sse42 => "SSE4_2"
  | .ssse3 => "SSSE3"
  | .svm => "SVM"
  | .syscall => "SYSCALL"
  | .tbm => "TBM"
  | .tsc => "TSC"
  | .vaes => "VAES"
  | .vmx => "VMX"
  | .xsave => "XSAVE"

end IsaCensus.X86
