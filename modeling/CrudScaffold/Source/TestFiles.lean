import CrudScaffold.Source.ModuleFiles

/-!
# The tests of an entity

Tests for the service of an entity, with its database replaced: a group for each method. And tests
that send requests for its records to the whole application: a group for each route.
-/

namespace CrudScaffold.Source

/-! ### The service -/

/-- What the tests use. -/
def serviceTestImports : Template := .concat [
  "import \x7b Test, TestingModule \x7d from '@nestjs/testing';\n",
  "import \x7b ", namePascal, "Service \x7d from '../../src/modules/", nameKebab, "/", nameKebab,
    ".service';\n",
  "import \x7b PrismaService \x7d from '../../src/core/prisma/prisma.service';\n",
  "\n"]

/-- The service under test. -/
def serviceTestHead : Template := .concat [
  "describe('", namePascal, "Service', () => \x7b\n",
  "  let service: ", namePascal, "Service;\n",
  "  let prismaService: PrismaService;\n",
  "\n"]

/-- A service whose database is replaced, made anew before each test. -/
def serviceTestSetup : Template := .concat [
  "  beforeEach(async () => \x7b\n",
  "    const module: TestingModule = await Test.createTestingModule(\x7b\n",
  "      providers: [\n",
  "        ", namePascal, "Service,\n",
  "        \x7b\n",
  "          provide: PrismaService,\n",
  "          useValue: \x7b\n",
  "            ", nameCamel, ": \x7b\n",
  "              create: jest.fn(),\n",
  "              findMany: jest.fn(),\n",
  "              findUnique: jest.fn(),\n",
  "              update: jest.fn(),\n",
  "              delete: jest.fn(),\n",
  "              count: jest.fn(),\n",
  "            \x7d,\n",
  "          \x7d,\n",
  "        \x7d,\n",
  "      ],\n",
  "    \x7d).compile();\n",
  "\n",
  "    service = module.get<", namePascal, "Service>(", namePascal, "Service);\n",
  "    prismaService = module.get<PrismaService>(PrismaService);\n",
  "  \x7d);\n",
  "\n"]

/-- The test that there is a service. -/
def definedTest : Template := .concat [
  "  it('should be defined', () => \x7b\n",
  "    expect(service).toBeDefined();\n",
  "  \x7d);\n",
  "\n"]

/-- The tests of making a record. -/
def createTests : Template := .concat [
  "  describe('create', () => \x7b\n",
  "    it('should create a new ", nameKebab, "', async () => \x7b\n",
  "      const createDto: any = ", samplePayload, ";\n",
  "      const expectedResult = \x7b id: '1', ...createDto \x7d;\n",
  "\n",
  "      jest.spyOn(prismaService.", nameCamel, ", 'create').mockResolvedValue(expectedResult);\n",
  "\n",
  "      const result = await service.create(createDto);\n",
  "      expect(result).toEqual(expectedResult);\n",
  "      expect(prismaService.", nameCamel,
    ".create).toHaveBeenCalledWith(\x7b data: createDto \x7d);\n",
  "    \x7d);\n",
  "  \x7d);\n",
  "\n"]

/-- The tests of listing records. -/
def findAllTests : Template := .concat [
  "  describe('findAll', () => \x7b\n",
  "    it('should return paginated ", pluralKebab, "', async () => \x7b\n",
  "      const query = \x7b page: 1, limit: 10 \x7d;\n",
  "      const data = [\x7b id: '1', ...", samplePayload, " \x7d];\n",
  "      const total = 1;\n",
  "\n",
  "      jest.spyOn(prismaService.", nameCamel, ", 'findMany').mockResolvedValue(data as any);\n",
  "      jest.spyOn(prismaService.", nameCamel, ", 'count').mockResolvedValue(total);\n",
  "\n",
  "      const result = await service.findAll(query);\n",
  "      expect(result).toEqual(\x7b\n",
  "        data,\n",
  "        meta: \x7b\n",
  "          page: 1,\n",
  "          limit: 10,\n",
  "          total: 1,\n",
  "          pages: 1,\n",
  "        \x7d,\n",
  "      \x7d);\n",
  "    \x7d);\n",
  "  \x7d);\n",
  "\n"]

/-- The tests of reading a record. -/
def findOneTests : Template := .concat [
  "  describe('findOne', () => \x7b\n",
  "    it('should return a ", nameKebab, " by id', async () => \x7b\n",
  "      const id = '1';\n",
  "      const expectedResult = \x7b id, ...", samplePayload, " \x7d;\n",
  "\n",
  "      jest.spyOn(prismaService.", nameCamel,
    ", 'findUnique').mockResolvedValue(expectedResult as any);\n",
  "\n",
  "      const result = await service.findOne(id);\n",
  "      expect(result).toEqual(expectedResult);\n",
  "      expect(prismaService.", nameCamel,
    ".findUnique).toHaveBeenCalledWith(\x7b where: \x7b id \x7d \x7d);\n",
  "    \x7d);\n",
  "\n",
  "    it('should throw NotFoundException when ", nameKebab, " not found', async () => \x7b\n",
  "      jest.spyOn(prismaService.", nameCamel, ", 'findUnique').mockResolvedValue(null);\n",
  "\n",
  "      await expect(service.findOne('1')).rejects.toThrow();\n",
  "    \x7d);\n",
  "  \x7d);\n",
  "\n"]

/-- The tests of changing a record. -/
def updateTests : Template := .concat [
  "  describe('update', () => \x7b\n",
  "    it('should update a ", nameKebab, "', async () => \x7b\n",
  "      const id = '1';\n",
  "      const updateDto: any = ", samplePayload, ";\n",
  "      const expectedResult = \x7b id, ...updateDto \x7d;\n",
  "\n",
  "      jest.spyOn(prismaService.", nameCamel,
    ", 'findUnique').mockResolvedValue(\x7b id \x7d as any);\n",
  "      jest.spyOn(prismaService.", nameCamel, ", 'update').mockResolvedValue(expectedResult);\n",
  "\n",
  "      const result = await service.update(id, updateDto);\n",
  "      expect(result).toEqual(expectedResult);\n",
  "      expect(prismaService.", nameCamel, ".update).toHaveBeenCalledWith(\x7b\n",
  "        where: \x7b id \x7d,\n",
  "        data: updateDto,\n",
  "      \x7d);\n",
  "    \x7d);\n",
  "  \x7d);\n",
  "\n"]

/-- The tests of removing a record, and the end of the file. -/
def removeTests : Template := .concat [
  "  describe('remove', () => \x7b\n",
  "    it('should delete a ", nameKebab, "', async () => \x7b\n",
  "      const id = '1';\n",
  "      const expectedResult = \x7b id, ...", samplePayload, " \x7d;\n",
  "\n",
  "      jest.spyOn(prismaService.", nameCamel,
    ", 'findUnique').mockResolvedValue(\x7b id \x7d as any);\n",
  "      jest.spyOn(prismaService.", nameCamel,
    ", 'delete').mockResolvedValue(expectedResult as any);\n",
  "\n",
  "      const result = await service.remove(id);\n",
  "      expect(result).toEqual(expectedResult);\n",
  "      expect(prismaService.", nameCamel,
    ".delete).toHaveBeenCalledWith(\x7b where: \x7b id \x7d \x7d);\n",
  "    \x7d);\n",
  "  \x7d);\n",
  "\x7d);\n"]

/-- The tests of the service. -/
def serviceTestFile : Template := .concat [
  serviceTestImports, serviceTestHead, serviceTestSetup, definedTest, createTests, findAllTests,
  findOneTests, updateTests, removeTests]

/-! ### The application -/

/-- What the tests use. -/
def requestTestImports : Template := .concat [
  "import \x7b Test, TestingModule \x7d from '@nestjs/testing';\n",
  "import \x7b INestApplication \x7d from '@nestjs/common';\n",
  "import * as request from 'supertest';\n",
  "import \x7b AppModule \x7d from '../../src/app/app.module';\n",
  "import \x7b PrismaService \x7d from '../../src/core/prisma/prisma.service';\n",
  "\n"]

/-- An application that runs during the tests. -/
def requestTestSetup : Template := .concat [
  "describe('", namePascal, "Controller (e2e)', () => \x7b\n",
  "  let app: INestApplication;\n",
  "  let prismaService: PrismaService;\n",
  "  const createDto: any = ", samplePayload, ";\n",
  "\n",
  "  beforeEach(async () => \x7b\n",
  "    const moduleFixture: TestingModule = await Test.createTestingModule(\x7b\n",
  "      imports: [AppModule],\n",
  "    \x7d).compile();\n",
  "\n",
  "    app = moduleFixture.createNestApplication();\n",
  "    prismaService = moduleFixture.get<PrismaService>(PrismaService);\n",
  "    await app.init();\n",
  "  \x7d);\n",
  "\n",
  "  afterEach(async () => \x7b\n",
  "    await prismaService.", nameCamel, ".deleteMany();\n",
  "  \x7d);\n",
  "\n",
  "  afterAll(async () => \x7b\n",
  "    await app.close();\n",
  "  \x7d);\n",
  "\n"]

/-- The tests of making a record. -/
def postTests : Template := .concat [
  "  describe('/", nameKebab, " (POST)', () => \x7b\n",
  "    it('should create a new ", nameKebab, "', () => \x7b\n",
  "      return request(app.getHttpServer())\n",
  "        .post('/", nameKebab, "')\n",
  "        .send(createDto)\n",
  "        .expect(201)\n",
  "        .expect((res) => \x7b\n",
  "          expect(res.body).toHaveProperty('id');\n",
  "          expect(res.body.", sampleKey, ").toEqual(createDto.", sampleKey, ");\n",
  "        \x7d);\n",
  "    \x7d);\n",
  "  \x7d);\n",
  "\n"]

/-- The tests of listing records. -/
def listTests : Template := .concat [
  "  describe('/", nameKebab, " (GET)', () => \x7b\n",
  "    it('should return paginated ", pluralKebab, "', async () => \x7b\n",
  "      await prismaService.", nameCamel, ".create(\x7b data: createDto \x7d);\n",
  "\n",
  "      return request(app.getHttpServer())\n",
  "        .get('/", nameKebab, "')\n",
  "        .expect(200)\n",
  "        .expect((res) => \x7b\n",
  "          expect(res.body).toHaveProperty('data');\n",
  "          expect(res.body).toHaveProperty('meta');\n",
  "          expect(Array.isArray(res.body.data)).toBe(true);\n",
  "        \x7d);\n",
  "    \x7d);\n",
  "  \x7d);\n",
  "\n"]

/-- The test of reading a record. -/
def getTests : Template := .concat [
  "  describe('/", nameKebab, "/:id (GET)', () => \x7b\n",
  "    it('should return a ", nameKebab, " by id', async () => \x7b\n",
  "      const ", nameCamel, " = await prismaService.", nameCamel,
    ".create(\x7b data: createDto \x7d);\n",
  "\n",
  "      return request(app.getHttpServer())\n",
  "        .get('/", nameKebab, "/' + ", nameCamel, ".id)\n",
  "        .expect(200)\n",
  "        .expect((res) => \x7b\n",
  "          expect(res.body.id).toBe(", nameCamel, ".id);\n",
  "        \x7d);\n",
  "    \x7d);\n",
  "\n"]

/-- The test of reading a record that is not there. -/
def getMissingTest : Template := .concat [
  "    it('should return 404 for non-existent ", nameKebab, "', () => \x7b\n",
  "      return request(app.getHttpServer())\n",
  "        .get('/", nameKebab, "/non-existent-id')\n",
  "        .expect(404);\n",
  "    \x7d);\n",
  "  \x7d);\n",
  "\n"]

/-- The tests of changing a record. -/
def patchTests : Template := .concat [
  "  describe('/", nameKebab, "/:id (PATCH)', () => \x7b\n",
  "    it('should update a ", nameKebab, "', async () => \x7b\n",
  "      const ", nameCamel, " = await prismaService.", nameCamel,
    ".create(\x7b data: createDto \x7d);\n",
  "\n",
  "      return request(app.getHttpServer())\n",
  "        .patch('/", nameKebab, "/' + ", nameCamel, ".id)\n",
  "        .send(createDto)\n",
  "        .expect(200)\n",
  "        .expect((res) => \x7b\n",
  "          expect(res.body.id).toBe(", nameCamel, ".id);\n",
  "        \x7d);\n",
  "    \x7d);\n",
  "  \x7d);\n",
  "\n"]

/-- The tests of removing a record, and the end of the file. -/
def deleteTests : Template := .concat [
  "  describe('/", nameKebab, "/:id (DELETE)', () => \x7b\n",
  "    it('should delete a ", nameKebab, "', async () => \x7b\n",
  "      const ", nameCamel, " = await prismaService.", nameCamel,
    ".create(\x7b data: createDto \x7d);\n",
  "\n",
  "      return request(app.getHttpServer())\n",
  "        .delete('/", nameKebab, "/' + ", nameCamel, ".id)\n",
  "        .expect(200)\n",
  "        .expect((res) => \x7b\n",
  "          expect(res.body.id).toBe(", nameCamel, ".id);\n",
  "        \x7d);\n",
  "    \x7d);\n",
  "  \x7d);\n",
  "\x7d);\n"]

/-- The tests of the application. -/
def requestTestFile : Template := .concat [
  requestTestImports, requestTestSetup, postTests, listTests, getTests, getMissingTest,
  patchTests, deleteTests]

end CrudScaffold.Source
