import IsaCensus.Decode.X86.Encoding

/-! The encodings that the command line program comes with, one list for each size of code. In a list
no entry's bytes begin with the bytes of another, so at most one entry fits. -/

namespace IsaCensus.X86

def realMode : List Encoding := [
  .control [0x0f, 0x0b] .trap [.intel286],
  .plain [0x0f, 0x58, 0xc1] [.sse],
  .plain [0x60] [.intel186],
  .plain [0x66, 0x90] [.intel8086],
  .plain [0x66, 0xb8, 0x78, 0x56, 0x34, 0x12] [.intel386],
  .branch [0x66, 0xe8, 0x01, 0x00, 0x00, 0x00] 4 .call [.intel386],
  .branch [0x66, 0xe9, 0x01, 0x00, 0x00, 0x00] 4 .unconditionalBranch [.intel386],
  .plain [0x67, 0x66, 0x8b, 0x04, 0x24] [.intel386],
  .branch [0x74, 0x01] 1 .conditionalBranch [.intel8086],
  .branch [0x74, 0x10] 1 .conditionalBranch [.intel8086],
  .plain [0x8b, 0x46, 0x3c] [.intel8086],
  .plain [0x90] [.intel8086],
  .control [0x9a, 0x00, 0x10, 0x00, 0x20] .call [.intel8086],
  .plain [0xb8, 0x34, 0x12] [.intel8086],
  .control [0xc3] .ret [.intel8086],
  .plain [0xc5, 0xfc, 0x58, 0xc1] [.avx],
  .control [0xcd, 0x21] .interrupt [.intel8086],
  .control [0xce] .interrupt [.intel8086],
  .control [0xcf] .ret [.intel8086],
  .branch [0xe2, 0x80] 1 .conditionalBranch [.intel8086],
  .branch [0xe8, 0x05, 0x00] 2 .call [.intel8086],
  .branch [0xe9, 0x01, 0x00] 2 .unconditionalBranch [.intel8086],
  .branch [0xeb, 0xfe] 1 .unconditionalBranch [.intel8086],
  .plain [0xf3, 0x66, 0xab] [.intel386],
  .plain [0xf4] [.intel8086],
  .control [0xff, 0x16, 0x34, 0x12] .call [.intel8086],
  .control [0xff, 0xe3] .indirectBranch [.intel8086]]

/-- Opcodes below 80. -/
def protectedLow : List Encoding := [
  .plain [0x00, 0x00] [.intel8086],
  .plain [0x01, 0xc2] [.intel386],
  .plain [0x01, 0xca] [.intel386],
  .plain [0x01, 0xd3] [.intel386],
  .plain [0x01, 0xd8] [.intel386],
  .plain [0x01, 0xda] [.intel386],
  .plain [0x01, 0xf2] [.intel386],
  .plain [0x01, 0xfa] [.intel386],
  .plain [0x06] [.intel386],
  .plain [0x07] [.intel386],
  .plain [0x0b, 0x00] [.intel386],
  .control [0x0f, 0x01, 0xd5] .specialTransaction [.rtm],
  .refused [0x0f, 0x04, 0x0f],
  .control [0x0f, 0x05] .call [.syscall],
  .control [0x0f, 0x0b] .trap [.intel286],
  .plain [0x0f, 0x20, 0xc0] [.intel386],
  .control [0x0f, 0x34] .call [.sep],
  .control [0x0f, 0x35] .ret [.sep],
  .plain [0x0f, 0x44, 0xc1] [.cmov],
  .plain [0x0f, 0x45, 0x05, 0x20, 0x00, 0x00, 0x00] [.cmov],
  .branch [0x0f, 0x8f, 0x01, 0x00, 0x00, 0x00] 4 .conditionalBranch [.intel386],
  .plain [0x0f, 0xa2] [.cpuid],
  .plain [0x0f, 0xaf, 0x14, 0x85, 0x00, 0x00, 0x00, 0x00] [.intel386],
  .plain [0x0f, 0xaf, 0x54, 0x24, 0x30] [.intel386],
  .plain [0x0f, 0xaf, 0x54, 0x24, 0x34] [.intel386],
  .plain [0x0f, 0xaf, 0x54, 0x24, 0x38] [.intel386],
  .plain [0x0f, 0xaf, 0x54, 0x24, 0x3c] [.intel386],
  .plain [0x0f, 0xb7, 0x54, 0x24, 0x06] [.intel386],
  .plain [0x2f] [.intel8086],
  .plain [0x40] [.intel386],
  .plain [0x4f] [.intel386],
  .plain [0x53] [.intel386],
  .plain [0x56] [.intel386],
  .plain [0x57] [.intel386],
  .plain [0x5b] [.intel386],
  .plain [0x5e] [.intel386],
  .plain [0x5f] [.intel386],
  .plain [0x60] [.intel386],
  .plain [0x61] [.intel386],
  .plain [0x62, 0x01] [.intel386],
  .plain [0x62, 0xf1, 0x7c, 0x48, 0x58, 0xc1] [.avx512f],
  .plain [0x63, 0xc8] [.intel386],
  .plain [0x66, 0x0f, 0x38, 0xdc, 0xc1] [.aes],
  .plain [0x66, 0x0f, 0xef, 0xc0] [.sse2],
  .branch [0x66, 0x74, 0x01] 1 .conditionalBranch [.intel8086],
  .plain [0x66, 0x89, 0x54, 0x24, 0x04] [.intel8086],
  .plain [0x66, 0x90] [.intel8086],
  .branch [0x66, 0xe8, 0x01, 0x00] 2 .call [.intel8086],
  .branch [0x66, 0xe9, 0x01, 0x00] 2 .unconditionalBranch [.intel8086],
  .plain [0x66, 0xf3, 0x0f, 0xb8, 0xc1] [.popcnt],
  .plain [0x67, 0x8b, 0x04] [.intel386],
  .branch [0x67, 0xe3, 0x01] 1 .conditionalBranch [.intel386],
  .branch [0x74, 0x0e] 1 .conditionalBranch [.intel386],
  .branch [0x74, 0x10] 1 .conditionalBranch [.intel386],
  .branch [0x74, 0x18] 1 .conditionalBranch [.intel386],
  .branch [0x75, 0xec] 1 .conditionalBranch [.intel386]]

/-- Opcodes from 80. -/
def protectedHigh : List Encoding := [
  .plain [0x80, 0xce, 0x0c] [.intel8086],
  .plain [0x83, 0x2d, 0x20, 0x00, 0x00, 0x00, 0x01] [.intel386],
  .plain [0x83, 0xc0, 0x01] [.intel386],
  .plain [0x83, 0xc4, 0x04] [.intel386],
  .plain [0x83, 0xec, 0x0c] [.intel386],
  .plain [0x83, 0xf8, 0x08] [.intel386],
  .plain [0x83, 0xfa, 0x01] [.intel386],
  .plain [0x83, 0xfa, 0x05] [.intel386],
  .plain [0x85, 0xd2] [.intel386],
  .plain [0x89, 0x10] [.intel386],
  .plain [0x89, 0x15, 0x20, 0x00, 0x00, 0x00] [.intel386],
  .plain [0x89, 0x34, 0x24] [.intel386],
  .plain [0x89, 0x50, 0x04] [.intel386],
  .plain [0x89, 0x50, 0x08] [.intel386],
  .plain [0x89, 0x50, 0x0c] [.intel386],
  .plain [0x89, 0xc2] [.intel386],
  .plain [0x89, 0xca] [.intel386],
  .plain [0x89, 0xda] [.intel386],
  .plain [0x89, 0xf2] [.intel386],
  .plain [0x89, 0xfa] [.intel386],
  .plain [0x8b, 0x14, 0x24] [.intel386],
  .plain [0x8b, 0x35, 0x20, 0x00, 0x00, 0x00] [.intel386],
  .plain [0x8b, 0x44, 0x24, 0x10] [.intel386],
  .plain [0x8b, 0x4c, 0x24, 0x2c] [.intel386],
  .plain [0x8b, 0x54, 0x24, 0x04] [.intel386],
  .plain [0x8b, 0x5c, 0x24, 0x28] [.intel386],
  .plain [0x8b, 0x74, 0x24, 0x24] [.intel386],
  .plain [0x8b, 0x7c, 0x24, 0x20] [.intel386],
  .plain [0x90] [.intel8086],
  .control [0x9a, 0x11, 0x22, 0x33, 0x44, 0x08, 0x00] .call [.intel386],
  .plain [0xa1, 0x44, 0x33, 0x22, 0x11] [.intel386],
  .plain [0xb8, 0x00, 0x00, 0x00, 0x00] [.intel386],
  .plain [0xb8, 0x04, 0x00, 0x00, 0x00] [.intel386],
  .plain [0xb8, 0x14, 0x00, 0x00, 0x00] [.intel386],
  .plain [0xb8, 0x28, 0x00, 0x00, 0x00] [.intel386],
  .plain [0xbb, 0x00, 0x00, 0x00, 0x00] [.intel386],
  .control [0xc2, 0x04, 0x00] .ret [.intel386],
  .control [0xc3] .ret [.intel386],
  .plain [0xc4, 0x01] [.intel386],
  .plain [0xc4, 0xe2, 0x71, 0xb8, 0xc2] [.fma],
  .plain [0xc5, 0x01] [.intel386],
  .plain [0xc5, 0xf8, 0x77] [.avx],
  .plain [0xc5, 0xfc, 0x58, 0xc1] [.avx],
  .control [0xc6, 0xf8, 0x01] .specialTransaction [.rtm],
  .plain [0xc7, 0x05, 0x20, 0x00, 0x00, 0x00, 0x29, 0x00, 0x00, 0x00] [.intel386],
  .branch [0xc7, 0xf8, 0x00, 0x00, 0x00, 0x00] 4 .specialTransaction [.rtm],
  .control [0xcc] .interrupt [.intel8086],
  .control [0xcd, 0x80] .interrupt [.intel8086],
  .control [0xcd, 0xff] .interrupt [.intel8086],
  .control [0xce] .interrupt [.intel8086],
  .control [0xcf] .ret [.intel386],
  .plain [0xd4, 0x0a] [.intel8086],
  .plain [0xd6] [.intel8086],
  .plain [0xd8, 0x05, 0x00, 0x00, 0x00, 0x00] [.fpu],
  .plain [0xd8, 0xc0] [.fpu],
  .plain [0xd9, 0x6c, 0x24, 0x04] [.fpu],
  .plain [0xd9, 0x6c, 0x24, 0x06] [.fpu],
  .plain [0xd9, 0x7c, 0x24, 0x06] [.fpu],
  .plain [0xdb, 0x00] [.fpu],
  .plain [0xdb, 0x04, 0x24] [.fpu],
  .plain [0xdb, 0x1c, 0x24] [.fpu],
  .plain [0xdc, 0x4c, 0x24, 0x0c] [.fpu],
  .plain [0xdd, 0x44, 0x24, 0x04] [.fpu],
  .branch [0xe0, 0x03] 1 .conditionalBranch [.intel386],
  .branch [0xe1, 0x04] 1 .conditionalBranch [.intel386],
  .branch [0xe2, 0x80] 1 .conditionalBranch [.intel386],
  .branch [0xe3, 0x02] 1 .conditionalBranch [.intel386],
  .branch [0xe8, 0x05, 0x00, 0x00, 0x00] 4 .call [.intel386],
  .branch [0xe8, 0x0b, 0x00, 0x00, 0x00] 4 .call [.intel386],
  .branch [0xe8, 0xfc, 0xff, 0xff, 0xff] 4 .call [.intel386],
  .branch [0xe9, 0x01, 0x00, 0x00, 0x00] 4 .unconditionalBranch [.intel386],
  .control [0xea, 0x11, 0x22, 0x33, 0x44, 0x08, 0x00] .unconditionalBranch [.intel386],
  .branch [0xeb, 0xf0] 1 .unconditionalBranch [.intel386],
  .branch [0xeb, 0xfe] 1 .unconditionalBranch [.intel386],
  .plain [0xf3, 0x0f, 0x1e, 0xfb] [.cetIbt],
  .plain [0xf3, 0x0f, 0xb8, 0xc1] [.popcnt],
  .plain [0xfc] [.intel8086],
  .control [0xff, 0x15, 0x00, 0x20, 0x00, 0x00] .call [.intel386],
  .control [0xff, 0x25, 0x00, 0x20, 0x00, 0x00] .indirectBranch [.intel386],
  .control [0xff, 0xd0] .call [.intel386],
  .control [0xff, 0xe0] .indirectBranch [.intel386],
  .refused [0xff, 0xff]]

def protectedMode : List Encoding := protectedLow ++ protectedHigh

/-- Opcodes below 40, without the two-byte ones. -/
def longLow : List Encoding := [
  .plain [0x00, 0x00] [.intel8086],
  .plain [0x00, 0x40, 0x00] [.intel8086],
  .plain [0x00, 0x66, 0x0f] [.intel8086],
  .plain [0x00, 0x92, 0x00, 0x00, 0x00, 0x00] [.intel8086],
  .plain [0x00, 0xe8] [.intel8086],
  .plain [0x00, 0xf8] [.intel8086],
  .plain [0x01, 0x45, 0xfc] [.intel386],
  .plain [0x01, 0xc0] [.intel386],
  .plain [0x01, 0xc2] [.intel386],
  .plain [0x01, 0xc3] [.intel386],
  .plain [0x01, 0xd0] [.intel386],
  .plain [0x01, 0xd3] [.intel386],
  .plain [0x01, 0xd8] [.intel386],
  .refused [0x06, 0x0f],
  .refused [0x06, 0x90],
  .plain [0x0b, 0x00] [.intel386],
  .plain [0x10, 0x00] [.intel8086],
  .plain [0x31, 0xc0] [.intel386],
  .plain [0x38, 0xdc] [.intel8086],
  .plain [0x3b, 0x45, 0xe4] [.intel386],
  .refused [0x3f, 0x00],
  .refused [0x3f, 0x01]]

/-- Opcodes that begin with 0f. -/
def longEscape : List Encoding := [
  .control [0x0f, 0x01, 0xc1] .call [.vmx],
  .control [0x0f, 0x01, 0xc2] .call [.vmx],
  .plain [0x0f, 0x01, 0xc8] [.monitor],
  .plain [0x0f, 0x01, 0xc9] [.monitor],
  .plain [0x0f, 0x01, 0xd0] [.xsave],
  .control [0x0f, 0x01, 0xd5] .specialTransaction [.rtm],
  .plain [0x0f, 0x01, 0xd6] [.hleOrRtm],
  .control [0x0f, 0x01, 0xd8] .call [.svm],
  .plain [0x0f, 0x01, 0xf8] [.x64],
  .plain [0x0f, 0x01, 0xf9] [.rdtscp],
  .refused [0x0f, 0x04, 0x90],
  .control [0x0f, 0x05] .call [.syscall],
  .control [0x0f, 0x07] .ret [.syscall],
  .control [0x0f, 0x0b] .trap [.intel286],
  .plain [0x0f, 0x0d, 0x08] [.prefetchw],
  .plain [0x0f, 0x0e] [.d3now],
  .plain [0x0f, 0x0f, 0xc1, 0x9e] [.d3now],
  .plain [0x0f, 0x18, 0x08] [.sse],
  .plain [0x0f, 0x29, 0x45, 0xf0] [.sse],
  .plain [0x0f, 0x29, 0x4d, 0xe0] [.sse],
  .plain [0x0f, 0x30] [.msr],
  .plain [0x0f, 0x31] [.tsc],
  .plain [0x0f, 0x38, 0xcb, 0xc1] [.sha],
  .refused [0x0f, 0x38, 0xdc, 0xc1],
  .plain [0x0f, 0x38, 0xf0, 0x01] [.movbe],
  .plain [0x0f, 0x3a, 0xcc, 0xc1, 0x00] [.sha],
  .plain [0x0f, 0x44, 0xc1] [.cmov],
  .plain [0x0f, 0x45, 0x05, 0x00, 0x00, 0x00, 0x00] [.cmov],
  .plain [0x0f, 0x45, 0x05, 0x94, 0x03, 0x00, 0x00] [.cmov],
  .plain [0x0f, 0x58, 0xc1] [.sse],
  .plain [0x0f, 0x77] [.mmx],
  .branch [0x0f, 0x84, 0x01, 0x00, 0x00, 0x00] 4 .conditionalBranch [.x64],
  .branch [0x0f, 0x8f, 0x01, 0x00, 0x00, 0x00] 4 .conditionalBranch [.x64],
  .plain [0x0f, 0xa2] [.cpuid],
  .plain [0x0f, 0xae, 0x00] [.fxsr],
  .plain [0x0f, 0xae, 0x20] [.xsave],
  .plain [0x0f, 0xae, 0x38] [.clfsh],
  .plain [0x0f, 0xae, 0xe8] [.sse2],
  .plain [0x0f, 0xae, 0xf0] [.sse2],
  .plain [0x0f, 0xae, 0xf8] [.sse],
  .plain [0x0f, 0xaf, 0x14, 0x81] [.intel386],
  .plain [0x0f, 0xaf, 0x45, 0xf8] [.intel386],
  .control [0x0f, 0xb9, 0xc0] .exception [.intel386],
  .plain [0x0f, 0xbc, 0xc1] [.intel386],
  .plain [0x0f, 0xc7, 0x08] [.cx8],
  .plain [0x0f, 0xc7, 0xf0] [.rdrand],
  .plain [0x0f, 0xc7, 0xf8] [.rdseed],
  .plain [0x0f, 0xef, 0xc0] [.mmx],
  .plain [0x0f, 0xfc, 0xc1] [.mmx],
  .control [0x0f, 0xff, 0xc0] .exception [.intel386]]

/-- Opcodes from 40, which widen their operands, and the stack instructions. -/
def longWide : List Encoding := [
  .plain [0x40, 0x00, 0x00] [.intel8086],
  .plain [0x41, 0x54] [.x64],
  .plain [0x48, 0x01, 0xd0] [.x64],
  .control [0x48, 0x0f, 0x07] .ret [.syscall],
  .plain [0x48, 0x0f, 0xc7, 0x08] [.cmpxchg16b],
  .plain [0x48, 0x83, 0xc0, 0x01] [.x64],
  .plain [0x48, 0x83, 0xc4, 0x08] [.x64],
  .plain [0x48, 0x83, 0xc4, 0x10] [.x64],
  .plain [0x48, 0x83, 0xec, 0x08] [.x64],
  .plain [0x48, 0x83, 0xec, 0x10] [.x64],
  .plain [0x48, 0x83, 0xf8, 0x08] [.x64],
  .plain [0x48, 0x89, 0x7d, 0xe8] [.x64],
  .plain [0x48, 0x89, 0xc7] [.x64],
  .plain [0x48, 0x89, 0xe5] [.x64],
  .plain [0x48, 0x8b, 0x05, 0x29, 0x00, 0x00, 0x00] [.x64],
  .plain [0x48, 0x8b, 0x0d, 0x8b, 0x03, 0x00, 0x00] [.x64],
  .plain [0x48, 0x8b, 0x45, 0xe8] [.x64],
  .plain [0x48, 0x8d, 0x05, 0x07, 0x04, 0x00, 0x00] [.x64],
  .plain [0x48, 0x8d, 0x05, 0x10, 0x00, 0x00, 0x00] [.x64],
  .plain [0x48, 0x8d, 0x0d, 0x00, 0x00, 0x00, 0x00] [.x64],
  .plain [0x48, 0x8d, 0x0d, 0x1c, 0x03, 0x00, 0x00] [.x64],
  .plain [0x48, 0x8d, 0x14, 0x85, 0x00, 0x00, 0x00, 0x00] [.x64],
  .plain [0x48, 0x90] [.intel8086],
  .plain [0x48, 0x98] [.x64],
  .plain [0x48, 0xb8, 0xef, 0xcd, 0xab, 0x89, 0x67, 0x45, 0x23, 0x01] [.x64],
  .control [0x48, 0xcf] .ret [.x64],
  .plain [0x53] [.x64],
  .plain [0x55] [.x64],
  .plain [0x58] [.x64],
  .plain [0x5d] [.x64]]

/-- Instructions that begin with a size or vector mark. -/
def longOperand : List Encoding := [
  .plain [0x62, 0xf1, 0x7c, 0x08, 0x58, 0xc1] [.avx512vl, .avx512f],
  .plain [0x62, 0xf1, 0x7c, 0x48, 0x58, 0xc1] [.avx512f],
  .plain [0x62, 0xf1, 0x7d, 0x08, 0xfc, 0xc1] [.avx512vl, .avx512bw],
  .plain [0x62, 0xf1, 0x7d, 0x48, 0xfc, 0xc1] [.avx512bw],
  .plain [0x66, 0x0f, 0x1f, 0x44, 0x00, 0x00] [.multiByteNop],
  .plain [0x66, 0x0f, 0x28, 0xc8] [.sse2],
  .plain [0x66, 0x0f, 0x38, 0x00, 0xc1] [.ssse3],
  .plain [0x66, 0x0f, 0x38, 0xdc, 0xc1] [.aes],
  .plain [0x66, 0x0f, 0x38, 0xf6, 0xc1] [.adx],
  .plain [0x66, 0x0f, 0x3a, 0x0e, 0xc1, 0x01] [.sse41],
  .plain [0x66, 0x0f, 0x3a, 0x44, 0xc1, 0x00] [.pclmulqdq],
  .plain [0x66, 0x0f, 0x62, 0xc1] [.sse2],
  .plain [0x66, 0x0f, 0x6f, 0x45, 0xe0] [.sse2],
  .plain [0x66, 0x0f, 0x6f, 0x45, 0xf0] [.sse2],
  .plain [0x66, 0x0f, 0x6f, 0xc1] [.sse2],
  .plain [0x66, 0x0f, 0x6f, 0xc8] [.sse2],
  .plain [0x66, 0x0f, 0x6f, 0xd0] [.sse2],
  .plain [0x66, 0x0f, 0x6f, 0xda] [.sse2],
  .plain [0x66, 0x0f, 0x70, 0xc0, 0x08] [.sse2],
  .plain [0x66, 0x0f, 0x70, 0xc2, 0x08] [.sse2],
  .plain [0x66, 0x0f, 0x70, 0xc9, 0x08] [.sse2],
  .plain [0x66, 0x0f, 0x73, 0xd0, 0x20] [.sse2],
  .plain [0x66, 0x0f, 0x73, 0xd1, 0x20] [.sse2],
  .plain [0x66, 0x0f, 0x73, 0xd3, 0x20] [.sse2],
  .plain [0x66, 0x0f, 0x79, 0xc1] [.sse4a],
  .plain [0x66, 0x0f, 0xae, 0x38] [.clflushopt],
  .plain [0x66, 0x0f, 0xef, 0xc0] [.sse2],
  .plain [0x66, 0x0f, 0xef, 0xc9] [.sse2],
  .plain [0x66, 0x0f, 0xf4, 0x55, 0xf0] [.sse2],
  .plain [0x66, 0x0f, 0xf4, 0xc2] [.sse2],
  .plain [0x66, 0x0f, 0xf4, 0xc8] [.sse2],
  .plain [0x66, 0x0f, 0xf4, 0xcb] [.sse2],
  .plain [0x66, 0x0f, 0xfe, 0x45, 0xf0] [.sse2],
  .plain [0x66, 0x0f, 0xfe, 0xc2] [.sse2],
  .plain [0x66, 0x48, 0x0f, 0x6e, 0xc0] [.sse2],
  .plain [0x66, 0x48, 0x0f, 0x7e, 0xc0] [.sse2],
  .refused [0x66, 0x66, 0x66, 0x66, 0x66, 0x66, 0x66, 0x66, 0x66, 0x66, 0x66, 0x66, 0x66, 0x66, 0x66],
  .plain [0x66, 0x66, 0x66, 0x66, 0x66, 0x66, 0x66, 0x66, 0x66, 0x66, 0x66, 0x66, 0x66, 0x66, 0x90] [.intel8086],
  .branch [0x66, 0x74, 0x01] 1 .conditionalBranch [.x64],
  .plain [0x66, 0x90] [.intel8086],
  .refused [0x66, 0xc5, 0xf8, 0x77],
  .branch [0x66, 0xe8, 0x01, 0x00, 0x00, 0x00] 4 .call [.x64],
  .branch [0x66, 0xe9, 0x01, 0x00, 0x00, 0x00] 4 .unconditionalBranch [.x64],
  .branch [0x66, 0xe9, 0x02, 0x00, 0x00, 0x00] 4 .unconditionalBranch [.x64],
  .branch [0x67, 0xe3, 0x01] 1 .conditionalBranch [.x64]]

/-- Opcodes from 70. -/
def longMiddle : List Encoding := [
  .branch [0x74, 0x02] 1 .conditionalBranch [.x64],
  .branch [0x74, 0x05] 1 .conditionalBranch [.x64],
  .branch [0x74, 0x08] 1 .conditionalBranch [.x64],
  .branch [0x74, 0x0a] 1 .conditionalBranch [.x64],
  .branch [0x74, 0x0e] 1 .conditionalBranch [.x64],
  .branch [0x74, 0x10] 1 .conditionalBranch [.x64],
  .branch [0x74, 0x18] 1 .conditionalBranch [.x64],
  .branch [0x74, 0x25] 1 .conditionalBranch [.x64],
  .branch [0x74, 0x2f] 1 .conditionalBranch [.x64],
  .branch [0x74, 0xfe] 1 .conditionalBranch [.x64],
  .branch [0x75, 0xee] 1 .conditionalBranch [.x64],
  .branch [0x77, 0xc3] 1 .conditionalBranch [.x64],
  .branch [0x7c, 0xd7] 1 .conditionalBranch [.x64],
  .branch [0x7f, 0x31] 1 .conditionalBranch [.x64],
  .plain [0x83, 0x2d, 0x00, 0x00, 0x00, 0x00, 0x01] [.intel386],
  .plain [0x83, 0x2d, 0x2f, 0x04, 0x00, 0x00, 0x01] [.intel386],
  .plain [0x83, 0x2d, 0x81, 0x03, 0x00, 0x00, 0x01] [.intel386],
  .plain [0x83, 0x45, 0xf8, 0x01] [.intel386],
  .plain [0x83, 0x7d, 0xfc, 0x00] [.intel386],
  .plain [0x83, 0x7d, 0xfc, 0x01] [.intel386],
  .plain [0x83, 0x7d, 0xfc, 0x05] [.intel386],
  .plain [0x83, 0xc0, 0x01] [.intel386],
  .plain [0x83, 0xe8, 0x01] [.intel386],
  .plain [0x83, 0xe8, 0x02] [.intel386],
  .plain [0x83, 0xff, 0x01] [.intel386],
  .plain [0x83, 0xff, 0x05] [.intel386],
  .plain [0x85, 0xc0] [.intel386],
  .plain [0x85, 0xff] [.intel386],
  .plain [0x89, 0x05, 0x8a, 0x04, 0x00, 0x00] [.intel386],
  .plain [0x89, 0x05, 0xa7, 0x03, 0x00, 0x00] [.intel386],
  .plain [0x89, 0x05, 0xdf, 0x03, 0x00, 0x00] [.intel386],
  .plain [0x89, 0x15, 0x00, 0x00, 0x00, 0x00] [.intel386],
  .plain [0x89, 0x15, 0xfb, 0x02, 0x00, 0x00] [.intel386],
  .plain [0x89, 0x75, 0xe4] [.intel386],
  .plain [0x89, 0x7d, 0xfc] [.intel386],
  .plain [0x89, 0xc2] [.intel386],
  .plain [0x89, 0xc3] [.intel386],
  .plain [0x89, 0xc7] [.intel386],
  .plain [0x89, 0xd0] [.intel386],
  .plain [0x89, 0xef] [.intel386],
  .plain [0x8b, 0x00] [.intel386],
  .plain [0x8b, 0x05, 0x08, 0x04, 0x00, 0x00] [.intel386],
  .plain [0x8b, 0x05, 0x17, 0x04, 0x00, 0x00] [.intel386],
  .plain [0x8b, 0x05, 0x65, 0x04, 0x00, 0x00] [.intel386],
  .plain [0x8b, 0x05, 0x93, 0x04, 0x00, 0x00] [.intel386],
  .plain [0x8b, 0x05, 0xb0, 0x04, 0x00, 0x00] [.intel386],
  .plain [0x8b, 0x2d, 0x00, 0x00, 0x00, 0x00] [.intel386],
  .plain [0x8b, 0x2d, 0x24, 0x03, 0x00, 0x00] [.intel386],
  .plain [0x8b, 0x3d, 0xd3, 0x03, 0x00, 0x00] [.intel386],
  .plain [0x8b, 0x44, 0x8b, 0x10] [.intel386],
  .plain [0x8b, 0x45, 0xf8] [.intel386],
  .plain [0x8b, 0x45, 0xfc] [.intel386],
  .plain [0x8b, 0x55, 0xfc] [.intel386],
  .plain [0x8b, 0x83, 0x44, 0x33, 0x22, 0x11] [.intel386],
  .plain [0x8d, 0x44, 0x7f, 0x01] [.intel386],
  .refused [0x8f, 0xe9, 0x78, 0x01, 0xc0],
  .plain [0x8f, 0xe9, 0x78, 0x01, 0xe0] [.tbm],
  .plain [0x90] [.intel8086],
  .plain [0xb8, 0x00, 0x00, 0x00, 0x00] [.intel386],
  .plain [0xb8, 0x04, 0x00, 0x00, 0x00] [.intel386],
  .plain [0xb8, 0x14, 0x00, 0x00, 0x00] [.intel386],
  .plain [0xb8, 0x28, 0x00, 0x00, 0x00] [.intel386],
  .plain [0xb8, 0x78, 0x56, 0x34, 0x12] [.intel386],
  .plain [0xbb, 0x00, 0x00, 0x00, 0x00] [.intel386],
  .plain [0xbe, 0x08, 0x00, 0x00, 0x00] [.intel386],
  .plain [0xbf, 0x01, 0x00, 0x00, 0x00] [.intel386],
  .plain [0xbf, 0x07, 0x00, 0x00, 0x00] [.intel386]]

/-- Opcodes from c0. -/
def longHigh : List Encoding := [
  .plain [0xc0, 0xc3, 0xcc] [.intel186],
  .plain [0xc1, 0xe0, 0x03] [.intel386],
  .control [0xc2, 0x08, 0x00] .ret [.x64],
  .control [0xc3] .ret [.x64],
  .plain [0xc4, 0xe1, 0xf8, 0x90, 0xc1] [.avx512bw],
  .plain [0xc4, 0xe2, 0x71, 0xb8, 0xc2] [.fma],
  .plain [0xc4, 0xe2, 0x78, 0xf2, 0xc1] [.bmi1],
  .plain [0xc4, 0xe2, 0x78, 0xf3, 0xc9] [.bmi1],
  .plain [0xc4, 0xe2, 0x79, 0x13, 0xc1] [.f16c],
  .plain [0xc4, 0xe2, 0x7b, 0xf5, 0xc1] [.bmi2],
  .plain [0xc4, 0xe2, 0x7d, 0xdc, 0xc1] [.vaes],
  .plain [0xc4, 0xe3, 0x7b, 0xf0, 0xc1, 0x05] [.bmi2],
  .plain [0xc5, 0xf8, 0x77] [.avx],
  .plain [0xc5, 0xf8, 0x90, 0xc1] [.avx512f],
  .plain [0xc5, 0xfc, 0x58, 0xc1] [.avx],
  .plain [0xc5, 0xfc, 0x77] [.avx],
  .plain [0xc5, 0xfd, 0xfe, 0xc1] [.avx2],
  .control [0xc6, 0xf8, 0x01] .specialTransaction [.rtm],
  .plain [0xc7, 0x05, 0x00, 0x00, 0x00, 0x00, 0x29, 0x00, 0x00, 0x00] [.intel386],
  .plain [0xc7, 0x05, 0x37, 0x04, 0x00, 0x00, 0x29, 0x00, 0x00, 0x00] [.intel386],
  .plain [0xc7, 0x05, 0x89, 0x03, 0x00, 0x00, 0x29, 0x00, 0x00, 0x00] [.intel386],
  .plain [0xc7, 0x05, 0xa0, 0x04, 0x00, 0x00, 0x29, 0x00, 0x00, 0x00] [.intel386],
  .plain [0xc7, 0x45, 0xf8, 0x00, 0x00, 0x00, 0x00] [.intel386],
  .plain [0xc7, 0x45, 0xfc, 0x00, 0x00, 0x00, 0x00] [.intel386],
  .branch [0xc7, 0xf8, 0x00, 0x00, 0x00, 0x00] 4 .specialTransaction [.rtm],
  .branch [0xc7, 0xf8, 0x04, 0x00, 0x00, 0x00] 4 .specialTransaction [.rtm],
  .plain [0xc9] [.x64],
  .control [0xcb] .ret [.intel386],
  .control [0xcc] .interrupt [.intel8086],
  .control [0xcd, 0x80] .interrupt [.intel8086],
  .refused [0xce, 0x66],
  .refused [0xce, 0x90],
  .refused [0xd4, 0x0a],
  .plain [0xd9, 0xe8] [.fpu],
  .plain [0xdb, 0xf1] [.fpu, .cmov],
  .plain [0xdc, 0xc1] [.fpu]]

/-- Opcodes from e0. -/
def longJump : List Encoding := [
  .branch [0xe0, 0x03] 1 .conditionalBranch [.x64],
  .branch [0xe1, 0x04] 1 .conditionalBranch [.x64],
  .branch [0xe2, 0x80] 1 .conditionalBranch [.x64],
  .branch [0xe2, 0xfe] 1 .conditionalBranch [.x64],
  .branch [0xe3, 0x01] 1 .conditionalBranch [.x64],
  .branch [0xe3, 0x02] 1 .conditionalBranch [.x64],
  .branch [0xe8, 0x00, 0x00, 0x00, 0x00] 4 .call [.x64],
  .branch [0xe8, 0x05, 0x00, 0x00, 0x00] 4 .call [.x64],
  .branch [0xe8, 0x0b, 0x00, 0x00, 0x00] 4 .call [.x64],
  .branch [0xe8, 0x12, 0xff, 0xff, 0xff] 4 .call [.x64],
  .branch [0xe8, 0x2e, 0xff, 0xff, 0xff] 4 .call [.x64],
  .branch [0xe8, 0x33, 0xff, 0xff, 0xff] 4 .call [.x64],
  .branch [0xe8, 0x3f, 0xff, 0xff, 0xff] 4 .call [.x64],
  .branch [0xe8, 0x67, 0xff, 0xff, 0xff] 4 .call [.x64],
  .branch [0xe8, 0x70, 0xfe, 0xff, 0xff] 4 .call [.x64],
  .branch [0xe8, 0x96, 0xff, 0xff, 0xff] 4 .call [.x64],
  .branch [0xe8, 0xa2, 0xff, 0xff, 0xff] 4 .call [.x64],
  .branch [0xe8, 0xd8, 0xfe, 0xff, 0xff] 4 .call [.x64],
  .branch [0xe8, 0xf3, 0xfe, 0xff, 0xff] 4 .call [.x64],
  .branch [0xe8, 0xfb, 0xff, 0xff, 0xff] 4 .call [.x64],
  .branch [0xe9, 0xfb, 0x0f, 0x00, 0x00] 4 .unconditionalBranch [.x64],
  .branch [0xe9, 0xff, 0xff, 0xff, 0x7f] 4 .unconditionalBranch [.x64],
  .branch [0xeb, 0x00] 1 .unconditionalBranch [.x64],
  .branch [0xeb, 0x01] 1 .unconditionalBranch [.x64],
  .branch [0xeb, 0x06] 1 .unconditionalBranch [.x64],
  .branch [0xeb, 0x0e] 1 .unconditionalBranch [.x64],
  .branch [0xeb, 0x1d] 1 .unconditionalBranch [.x64],
  .branch [0xeb, 0x21] 1 .unconditionalBranch [.x64],
  .branch [0xeb, 0x23] 1 .unconditionalBranch [.x64],
  .branch [0xeb, 0xe0] 1 .unconditionalBranch [.x64],
  .branch [0xeb, 0xef] 1 .unconditionalBranch [.x64],
  .branch [0xeb, 0xfe] 1 .unconditionalBranch [.x64],
  .plain [0xec] [.intel8086],
  .plain [0xef] [.intel386]]

/-- Opcodes from f0. -/
def longTop : List Encoding := [
  .plain [0xf0, 0x83, 0x00, 0x01] [.intel386],
  .refused [0xf0, 0x90],
  .control [0xf1] .interrupt [.intel386],
  .plain [0xf2, 0x0f, 0x10, 0x05, 0x20, 0x00, 0x00, 0x00] [.sse2],
  .plain [0xf2, 0x0f, 0x10, 0x05, 0x7f, 0x01, 0x00, 0x00] [.sse2],
  .plain [0xf2, 0x0f, 0x10, 0x45, 0xf8] [.sse2],
  .plain [0xf2, 0x0f, 0x11, 0x45, 0xf8] [.sse2],
  .plain [0xf2, 0x0f, 0x11, 0x4d, 0xf0] [.sse2],
  .plain [0xf2, 0x0f, 0x2a, 0x0d, 0xc0, 0x03, 0x00, 0x00] [.sse2],
  .plain [0xf2, 0x0f, 0x2a, 0xc0] [.sse2],
  .plain [0xf2, 0x0f, 0x2a, 0xc5] [.sse2],
  .plain [0xf2, 0x0f, 0x2c, 0xc0] [.sse2],
  .plain [0xf2, 0x0f, 0x2c, 0xd0] [.sse2],
  .plain [0xf2, 0x0f, 0x38, 0xf1, 0xc1] [.sse42],
  .plain [0xf2, 0x0f, 0x58, 0x05, 0x00, 0x00, 0x00, 0x00] [.sse2],
  .plain [0xf2, 0x0f, 0x58, 0x05, 0x19, 0x00, 0x00, 0x00] [.sse2],
  .plain [0xf2, 0x0f, 0x58, 0x05, 0xc7, 0x00, 0x00, 0x00] [.sse2],
  .plain [0xf2, 0x0f, 0x58, 0x05, 0xdf, 0x00, 0x00, 0x00] [.sse2],
  .plain [0xf2, 0x0f, 0x58, 0xc0] [.sse2],
  .plain [0xf2, 0x0f, 0x58, 0xc1] [.sse2],
  .plain [0xf2, 0x0f, 0x59, 0x4d, 0xf0] [.sse2],
  .plain [0xf2, 0x0f, 0x59, 0xc1] [.sse2],
  .plain [0xf2, 0x0f, 0x79, 0xc1] [.sse4a],
  .plain [0xf2, 0x0f, 0x7c, 0xc1] [.sse3],
  .plain [0xf3, 0x0f, 0x10, 0xc1] [.sse],
  .plain [0xf3, 0x0f, 0x1e, 0xfa] [.cetIbt],
  .plain [0xf3, 0x0f, 0x2b, 0x01] [.sse4a],
  .plain [0xf3, 0x0f, 0xae, 0xc0] [.fsgsbase],
  .plain [0xf3, 0x0f, 0xb8, 0xc1] [.popcnt],
  .plain [0xf3, 0x0f, 0xbc, 0xc1] [.bmi1],
  .plain [0xf3, 0x0f, 0xbd, 0xc1] [.lzcnt],
  .plain [0xf3, 0x90] [.pause],
  .plain [0xf3, 0xa4] [.intel8086],
  .plain [0xf4] [.intel8086],
  .plain [0xf8] [.intel8086],
  .plain [0xfb] [.intel8086],
  .control [0xff, 0x15, 0x10, 0x00, 0x00, 0x00] .call [.x64],
  .control [0xff, 0x18] .call [.intel386],
  .control [0xff, 0x25, 0x10, 0x00, 0x00, 0x00] .indirectBranch [.x64],
  .control [0xff, 0x25, 0x6a, 0x04, 0x00, 0x00] .indirectBranch [.x64],
  .control [0xff, 0x25, 0x72, 0x04, 0x00, 0x00] .indirectBranch [.x64],
  .control [0xff, 0x25, 0x7a, 0x04, 0x00, 0x00] .indirectBranch [.x64],
  .control [0xff, 0x25, 0x7c, 0x04, 0x00, 0x00] .indirectBranch [.x64],
  .control [0xff, 0x28] .indirectBranch [.intel386],
  .plain [0xff, 0x35, 0x7a, 0x04, 0x00, 0x00] [.x64],
  .control [0xff, 0xd0] .call [.x64],
  .control [0xff, 0xe0] .indirectBranch [.x64],
  .refused [0xff, 0xff]]

def longMode : List Encoding :=
  longLow ++ longEscape ++ longWide ++ longOperand ++ longMiddle ++ longHigh ++ longJump ++ longTop

def encodings : Mode → List Encoding
  | .bits16 => realMode
  | .bits32 => protectedMode
  | .bits64 => longMode

/-- The engine that knows the encodings of the tables, and only these. -/
def tables : Engine Extension := .ofEncodings encodings

def decoder (mode : Mode) : Decoder Cursor Extension := tables.decoder mode

end IsaCensus.X86
